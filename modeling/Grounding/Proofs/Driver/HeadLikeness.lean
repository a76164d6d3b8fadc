import Grounding.Driver.Header
import Grounding.Proofs.Driver.Terms

/-!
# Heads of drivers that differ in free texts

Notices go in the docstring of the driver, and the address of the service in this docstring and in a
literal. Apart from them the head is fixed code and names, so that any two heads that differ in
notices and in the address only are alike.
-/

namespace Grounding

open Lexing

/-- The names that a head writes: of the system, and of the packages that it imports from. -/
structure Heading.Named (h : Heading) : Prop where
  system : IsDottedName h.system
  packages : ∀ p ∈ h.record.sourcePackages, p ≠ "" → IsDottedName p

namespace Heading

variable {h : Heading} {depth : Nat}

theorem alikeCode_plain {lines : List String}
    (hlines : ∀ s ∈ lines, AlikeLine s.toList s.toList (some false)) :
    AlikeCode false depth (plain lines) (plain lines) := by
  rw [plain]
  induction lines with
  | nil => exact .nil
  | cons s lines ih =>
    rw [List.forall_mem_cons] at hlines
    have hfirst : AlikeStatement (.plain s) (.plain s) := hlines.1
    exact ((AlikeCode.statement hfirst (by decide)).cons (ih hlines.2)).silent

/-! ### Imports -/

theorem alikeLine_binding (b : Binding) :
    AlikeLine (importLine b.location).toList (importLine b.location).toList (some false) := by
  have hline : IsFixedLine (importLine b.location).toList (some false) := by
    rcases b with _ | _ | _ | _ | _ <;> decide +kernel
  exact hline.alike

theorem importLine_package {p : String} (hne : p ≠ "") :
    (importLine (p ++ ".*")).toList = "from ".toList ++ (p.toList ++ " import *".toList) := by
  have hlocation : (p ++ ".*").toList = p.toList ++ ['.', '*'] := String.toList_append
  have hname : (((p ++ ".*").toList.reverse.takeWhile (· != '.')).reverse) = ['*'] := by
    rw [hlocation, List.reverse_append]
    rfl
  have hpackage : (p ++ ".*").toList.take ((p ++ ".*").toList.length - ['*'].length - 1) =
      p.toList := by
    rw [hlocation, List.length_append]
    exact List.take_left
  have hsome : p.toList.isEmpty = false := by
    rw [List.isEmpty_eq_false_iff]
    exact fun h => hne (String.toList_eq_nil_iff.1 h)
  rw [importLine, hname, hpackage, hsome, if_neg nofun]
  simp only [String.toList_append, String.toList_ofList, List.append_assoc]
  rfl

theorem alikeLine_package {p : String} (hne : p ≠ "") (hp : IsDottedName p) :
    AlikeLine (importLine (p ++ ".*")).toList (importLine (p ++ ".*")).toList (some false) := by
  rw [importLine_package hne]
  refine alikeLine_of_alikeTo (by decide) (by decide) (?_ : AlikeTo (.code '*') _ _) (by decide)
  exact .after (all_isInert_name hp) (.inert (by decide) (by decide))

theorem alikeLine_importLines (hnamed : h.Named) :
    ∀ s ∈ h.record.importLines, AlikeLine s.toList s.toList (some false) := by
  rw [DependencyRecord.importLines, List.forall_mem_map, DependencyRecord.imports,
    List.forall_mem_append, List.forall_mem_map, List.forall_mem_map]
  refine ⟨fun b _ => alikeLine_binding b, fun p hp => ?_⟩
  rw [DependencyRecord.importedPackages, List.mem_filter, Bool.and_eq_true] at hp
  have hne : p ≠ "" := by simpa using hp.2.1
  exact alikeLine_package hne (hnamed.packages p hp.1 hne)

theorem alikeCode_importGroup {lines : List String}
    (hlines : ∀ s ∈ lines, AlikeLine s.toList s.toList (some false)) :
    AlikeCode false depth (importGroup lines) (importGroup lines) := by
  rw [importGroup]
  split
  · exact .nil
  · exact (AlikeCode.blank 1).cons (alikeCode_plain hlines)

theorem alikeCode_imports (hnamed : h.Named) :
    AlikeCode false depth h.imports h.imports := by
  have hunittest : areFixed (importGroup ["import unittest"]) = true := by decide +kernel
  have hlibrary : areFixed (importGroup (libraryImports h.backend)) = true := by
    cases h.backend <;> decide +kernel
  have hrecord : AlikeCode false depth (importGroup h.recordImports)
      (importGroup h.recordImports) := by
    refine alikeCode_importGroup ?_
    rw [recordImports]
    split
    · exact alikeLine_importLines hnamed
    · exact alikeLine_importLines hnamed
    · split
      · exact alikeLine_importLines hnamed
      · exact nofun
  exact (((AlikeCode.fixed hunittest).append (.fixed hlibrary)).append hrecord).silent

/-! ### The class -/

/-- The head of a driver with other notices and another address of the service. -/
def retold (h : Heading) (notices : List Notice) (endpoint : String) : Heading :=
  { h with notices := notices, endpoint := endpoint }

variable (notices : List Notice) (endpoint : String)

theorem alikeCode_preamble (hnamed : h.Named) :
    AlikeCode false depth h.preamble (h.retold notices endpoint).preamble := by
  have hlines : ∀ (h : Heading) (s : String), [h.driver ++ " generated on " ++ h.generatedAt.text,
      "by specground " ++ version ++ ", grounding: " ++ h.backend.selector ++ ".", ""] ++
      h.about ++ h.noticeLines = [s] → s.toList.getLast? ≠ some '"' := fun h s hs => by
    simp at hs
  have hbanner : AlikeCode true depth h.banner (h.retold notices endpoint).banner :=
    .docstring (hlines h) (hlines (h.retold notices endpoint))
  exact ((hbanner.append (alikeCode_imports hnamed)).append (.blank 2)).silent

theorem alikeLine_classHeader (hnamed : h.Named) :
    AlikeLine h.classHeader.toList h.classHeader.toList (some true) := by
  rw [classHeader, driver]
  simp only [String.toList_append, List.append_assoc]
  refine alikeLine_of_alikeTo (by decide) (by decide) (?_ : AlikeTo (.code ':') _ _) (by decide)
  refine .after (all_isInert_name hnamed.system) (.after (by decide) ?_)
  exact .inert (by decide) (by decide)

theorem alikeStatement_address {w : String} (hw : w.toList.all isInert = true)
    (hhead : w.toList.head?.any (· != ' ') = true) (s t : String) :
    AlikeStatement (.plain (w ++ Text.quoted s)) (.plain (w ++ Text.quoted t)) := by
  show AlikeLine (w ++ Text.quoted s).toList (w ++ Text.quoted t).toList (some false)
  simp only [String.toList_append]
  exact alikeLine_of_alikeTo hw hhead (.quoted s t) rfl

theorem alikeStatement_system (hnamed : h.Named) :
    AlikeStatement (.plain ("system: " ++ h.system ++ " = None"))
      (.plain ("system: " ++ h.system ++ " = None")) := by
  show AlikeLine ("system: " ++ h.system ++ " = None").toList
    ("system: " ++ h.system ++ " = None").toList (some false)
  simp only [String.toList_append, List.append_assoc]
  refine alikeLine_of_alikeTo (by decide) (by decide) (?_ : AlikeTo (.code 'e') _ _) (by decide)
  exact .after (all_isInert_name hnamed.system) (.inert (by decide) (by decide))

theorem alikeCode_factoryField : AlikeCode false depth h.factoryField h.factoryField := by
  have hfixed : areFixed (.blank 1 ::
      plain ["#: HostFactory to synthesise objects of complex types.",
        "factory: HostFactory = None"]) = true := by decide +kernel
  rw [factoryField]
  split
  · exact (AlikeCode.fixed hfixed).silent
  · exact .nil

theorem alikeCode_fields (hnamed : h.Named) :
    AlikeCode false depth h.fields (h.retold notices endpoint).fields := by
  have haddress : ∀ (before after : List Code) {w : String} (s t : String),
      areFixed before = true → areFixed after = true → w.toList.all isInert = true →
      w.toList.head?.any (· != ' ') = true →
      AlikeCode false depth (before ++ .statement (.plain (w ++ Text.quoted s)) :: after)
        (before ++ .statement (.plain (w ++ Text.quoted t)) :: after) := by
    intro before after w s t hbefore hafter hw hhead
    have hline : AlikeCode true depth [.statement (.plain (w ++ Text.quoted s))]
        [.statement (.plain (w ++ Text.quoted t))] :=
      .statement (alikeStatement_address hw hhead s t) (by decide)
    exact ((AlikeCode.fixed hbefore).append (hline.cons (.fixed hafter))).silent
  have hfactory : AlikeCode false depth h.factoryField (h.retold notices endpoint).factoryField :=
    alikeCode_factoryField
  rw [fields, fields]
  refine AlikeCode.append (?_ : AlikeCode false depth _ _) hfactory
  have hbackend : (h.retold notices endpoint).backend = h.backend := rfl
  rw [hbackend]
  cases h.backend with
  | inProcess =>
    have hcomment : areFixed (plain ["#: The Python object representing the System-Under-Test."]) =
        true := by decide +kernel
    have hsystem : AlikeCode true depth [.statement (.plain ("system: " ++ h.system ++ " = None"))]
        [.statement (.plain ("system: " ++ h.system ++ " = None"))] :=
      .statement (alikeStatement_system hnamed) (by decide)
    exact ((AlikeCode.fixed hcomment).append hsystem).silent
  | rpc =>
    exact haddress [_] _ h.wsdl (h.retold notices endpoint).wsdl (by decide +kernel)
      (by decide +kernel) (by decide) (by decide)
  | rest =>
    exact haddress [_] _ h.restRoot (h.retold notices endpoint).restRoot (by decide +kernel)
      (by decide +kernel) (by decide) (by decide)

theorem alikeCode_constructor : AlikeCode true depth h.constructor h.constructor := by
  have hheader : IsFixedLine "def __init__(self, method_name=\"runTest\"):".toList (some true) := by
    decide +kernel
  have hlines : ∀ s ∈ "super().__init__(method_name)" :: h.factorySetup,
      AlikeLine s.toList s.toList (some false) := by
    have hinit : IsFixedLine "super().__init__(method_name)".toList (some false) := by
      decide +kernel
    have hfactory : IsFixedLine "self.factory = HostFactory()".toList (some false) := by
      decide +kernel
    rw [List.forall_mem_cons, factorySetup]
    refine ⟨hinit.alike, ?_⟩
    split
    · rw [List.forall_mem_cons, List.forall_mem_map]
      refine ⟨hfactory.alike, fun p _ => ?_⟩
      simp only [String.toList_append, List.append_assoc]
      refine alikeLine_of_parenthesis (by decide) (by decide) ?_
      exact .of_alike (.quoted p p) (by decide) (by decide)
    · exact nofun
  exact .block hheader.alike ((AlikeCode.sentence _).cons (alikeCode_plain hlines))

theorem alikeCode_setup (hnamed : h.Named) : AlikeCode false depth h.setup h.setup := by
  rw [setup]
  cases h.backend with
  | inProcess =>
    have hheader : IsFixedLine "def setUp(self):".toList (some true) := by decide
    have hpresent : areFixed [present "system"] = true := by decide +kernel
    have hline : AlikeLine ("self.system = " ++ h.system ++ "()").toList
        ("self.system = " ++ h.system ++ "()").toList (some false) := by
      simp only [String.toList_append, List.append_assoc]
      refine alikeLine_of_parenthesis (by decide) (by decide) ?_
      exact .after (all_isInert_name hnamed.system) (.inert (by decide) (by decide))
    have hsystem : AlikeCode false (depth + 1) (plain ["self.system = " ++ h.system ++ "()"])
        (plain ["self.system = " ++ h.system ++ "()"]) :=
      alikeCode_plain (List.forall_mem_singleton.2 hline)
    refine AlikeCode.silent (.block hheader.alike ?_)
    exact ((AlikeCode.fixed_docstring (by decide)).cons hsystem).append (.fixed hpresent)
  | rpc =>
    refine (AlikeCode.fixed ?_).silent
    dsimp only
    decide +kernel
  | rest =>
    refine (AlikeCode.fixed ?_).silent
    dsimp only
    decide +kernel

theorem alikeCode_helpers : AlikeCode false depth h.helpers h.helpers := by
  rw [helpers]
  cases h.backend with
  | inProcess | rpc => exact .nil
  | rest =>
    have hcall : areFixed [.blank 1, callHelper] = true := by decide +kernel
    refine AlikeCode.silent ((AlikeCode.fixed hcall).append (?_ : AlikeCode false depth _ _))
    split
    · exact (AlikeCode.fixed (by decide +kernel)).silent
    · exact .nil

theorem alikeCode_classHead (hnamed : h.Named) :
    AlikeCode true depth h.classHead (h.retold notices endpoint).classHead := by
  have hdocstring : AlikeCode true depth
      [.docstring ["Test driver for the system under test: " ++ h.system ++ "."], .blank 1]
      [.docstring ["Test driver for the system under test: " ++ h.system ++ "."], .blank 1] :=
    (AlikeCode.sentence _).cons (.blank 1)
  have hconstructor : AlikeCode true depth h.constructor (h.retold notices endpoint).constructor :=
    alikeCode_constructor
  have hsetup : AlikeCode false depth h.setup (h.retold notices endpoint).setup :=
    alikeCode_setup hnamed
  have hhelpers : AlikeCode false depth h.helpers (h.retold notices endpoint).helpers :=
    alikeCode_helpers
  have hfields := hdocstring.append (alikeCode_fields notices endpoint hnamed)
  have hmethods := ((hfields.append (.blank 1)).append hconstructor).append (.blank 1)
  exact (hmethods.append hsetup).append hhelpers

end Heading

end Grounding
