import Grounding.Proofs.Driver.Step
import Grounding.Proofs.Driver.Unquoting
import Grounding.Proofs.Itemwise
import Grounding.Proofs.Text.Segments

/-!
# Paths of calls

The path of a call can be taken apart: where it is cut at the slashes there are the name of the
operation, one segment for each input in order, and nothing at the end. Each segment stands for the
literal of its input. So inputs with different literals have different paths.
-/

namespace Grounding

open Text Lexing

theorem Call.toList_pathText (operation : String) (literals : List String) :
    (pathText operation literals).toList = ['/'].intercalate
      (operation.toList :: (literals.map (fun s => (percentEncode s).toList) ++ [[]])) := by
  have hjoin : ∀ first : List Char, first ++
      '/' :: (String.join (literals.map fun s => percentEncode s ++ "/")).toList =
        ['/'].intercalate
          (first :: (literals.map (fun s => (percentEncode s).toList) ++ [[]])) := by
    induction literals with
    | nil => intro first; simp
    | cons s literals ih =>
      intro first
      rw [List.map_cons, List.map_cons, String.join_cons, List.cons_append,
        List.intercalate_cons_cons, ← ih, String.toList_append, String.toList_append]
      simp
  rw [pathText, String.toList_append, String.toList_append, List.append_assoc]
  exact hjoin operation.toList

namespace Backend

def CallsPath (o : Operation) (path : String) : Prop :=
  ∃ c, rest.call o = .ok c ∧ c.text = "self.call_method(" ++ quoted path ++ ")"

variable {o : Operation} {values : List Value} {path : String}

theorem callsPath_iff (h : List.Forall₂ (fun p x => p.evaluate = .ok x) o.inputs values) :
    CallsPath o path ↔ path = Call.pathText o.name (values.map Value.literal) := by
  have hliterals : List.Forall₂ (fun p s => ∃ x, p.evaluate = .ok x ∧ x.literal = s) o.inputs
      (values.map Value.literal) := by
    rw [List.forall₂_map_right_iff]
    exact h.imp fun p x hx => ⟨x, hx, rfl⟩
  have hcall : rest.call o = .ok (.path o.name (values.map Value.literal)) :=
    call_eq_ok_iff.2 (.path hliterals)
  constructor
  · rintro ⟨c, hc, htext⟩
    obtain rfl := Except.ok.inj (hc.symm.trans hcall)
    rw [Call.text_path, String.append_left_inj, String.append_right_inj] at htext
    exact (quoted_injective htext).symm
  · rintro rfl
    exact ⟨_, hcall, Call.text_path _ _⟩

theorem splitOn_pathText_append (operation : String) (literals : List String) :
    (Call.pathText operation literals).toList.splitOn '/' = operation.toList.splitOn '/' ++
      (literals.map (fun s => (percentEncode s).toList) ++ [[]]) := by
  have hparts : ∀ part ∈ literals.map (fun s => (percentEncode s).toList) ++ [[]],
      '/' ∉ part := by
    simp only [List.forall_mem_append, List.forall_mem_map]
    exact ⟨fun s _ => slash_notMem_percentEncode s, by simp⟩
  have hne : literals.map (fun s => (percentEncode s).toList) ++ [[]] ≠ [] := by simp
  rw [Call.toList_pathText, List.intercalate_cons_of_ne_nil hne, List.append_assoc,
    List.singleton_append, List.splitOn_append_cons_self, List.splitOn_intercalate '/' hparts hne]

theorem splitOn_pathText {operation : String} (hname : '/' ∉ operation.toList)
    (literals : List String) : (Call.pathText operation literals).toList.splitOn '/' =
      operation.toList :: (literals.map (fun s => (percentEncode s).toList) ++ [[]]) := by
  rw [splitOn_pathText_append, List.splitOn_eq_singleton hname, List.singleton_append]

theorem map_percentDecode? (literals : List String) :
    (literals.map (fun s => (percentEncode s).toList)).map percentDecode? = literals.map some := by
  rw [List.map_map]
  apply List.map_congr_left
  intro s _
  rw [Function.comp_apply, percentDecode?_percentEncode]

/-- An operation whose inputs have values is called by a path. Cut at the slashes, every such path
has the name of the operation, a segment for each input in order and nothing at the end, and a
segment stands for the literal of its input. Operations that are called by one path have one name,
and their inputs have the same literals. -/
theorem path_stands_for (hname : '/' ∉ o.name.toList)
    (hvalues : List.Forall₂ (fun p x => p.evaluate = .ok x) o.inputs values) :
    (∃ path, CallsPath o path) ∧
      (∀ path, CallsPath o path → ∃ segments,
        path.toList.splitOn '/' = o.name.toList :: (segments ++ [[]]) ∧
          List.Forall₂ (fun s x => percentDecode? s = some x.literal) segments values) ∧
      ∀ (o' : Operation) (values' : List Value) (path : String), '/' ∉ o'.name.toList →
        List.Forall₂ (fun p x => p.evaluate = .ok x) o'.inputs values' →
          CallsPath o path → CallsPath o' path →
            o.name = o'.name ∧ values.map Value.literal = values'.map Value.literal := by
  refine ⟨⟨_, (callsPath_iff hvalues).2 rfl⟩, ?_, ?_⟩
  · intro path hpath
    rw [(callsPath_iff hvalues).1 hpath, splitOn_pathText hname]
    refine ⟨_, rfl, ?_⟩
    rw [List.map_map, List.forall₂_map_left_iff, List.forall₂_same]
    intro x _
    exact percentDecode?_percentEncode x.literal
  · intro o' values' path hname' hvalues' hpath hpath'
    have hsplit := splitOn_pathText hname (values.map Value.literal)
    have hsplit' := splitOn_pathText hname' (values'.map Value.literal)
    rw [← (callsPath_iff hvalues).1 hpath] at hsplit
    rw [← (callsPath_iff hvalues').1 hpath', hsplit] at hsplit'
    obtain ⟨hnames, hsegments⟩ := List.cons.inj hsplit'
    refine ⟨String.toList_injective hnames, ?_⟩
    have hdecoded := congrArg (List.map percentDecode?) (List.append_cancel_right hsegments)
    rw [map_percentDecode?, map_percentDecode?] at hdecoded
    exact List.map_injective_iff.2 (fun _ _ => Option.some.inj) hdecoded

/-- A call with a text that holds a slash, a percent sign and a letter of two octets, and with a
list. -/
def putOperation : Operation :=
  ⟨"put", [⟨"key", "String", some "a/%é", true⟩, ⟨"items", "List[Integer]", some "[1, 2]", true⟩],
    [], []⟩

theorem path_stands_for_put :
    let values := [.text "a/%é", .list [.int 1, .int 2]]
    '/' ∉ putOperation.name.toList ∧
      List.Forall₂ (fun p x => p.evaluate = .ok x) putOperation.inputs values ∧
      CallsPath putOperation "put/a%2F%25%C3%A9/%5B1%2C%202%5D/" ∧
      ∃ segments, "put/a%2F%25%C3%A9/%5B1%2C%202%5D/".toList.splitOn '/' =
          "put".toList :: (segments ++ [[]]) ∧
        List.Forall₂ (fun s x => percentDecode? s = some (Value.literal x)) segments values := by
  intro values
  have hname : '/' ∉ putOperation.name.toList := by decide
  have hlist : Descriptor.parse .bracket "List[Integer]" = .ok (.list (.primitive .integer)) := by
    decide +kernel
  have hkey : Parameter.evaluate ⟨"key", "String", some "a/%é", true⟩ = .ok (.text "a/%é") := by
    cbv
  have hitems : Parameter.evaluate ⟨"items", "List[Integer]", some "[1, 2]", true⟩ =
      .ok (.list [.int 1, .int 2]) := by
    rw [Parameter.evaluate, if_pos rfl, Synthesis.createText, Synthesis.readType, hlist]
    rfl
  have hvalues : List.Forall₂ (fun p x => p.evaluate = .ok x) putOperation.inputs values :=
    .cons hkey (.cons hitems .nil)
  have hpath : CallsPath putOperation "put/a%2F%25%C3%A9/%5B1%2C%202%5D/" :=
    (callsPath_iff hvalues).2 (by decide +kernel)
  exact ⟨hname, hvalues, hpath, (path_stands_for hname hvalues).2.1 _ hpath⟩

end Backend

end Grounding
