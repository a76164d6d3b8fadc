import Grounding.Proofs.Driver.Paths
import Grounding.Proofs.Driver.Scalars
import Grounding.Proofs.Text.Occurring

/-!
# How calls are routed

A driver of a path grounding has one method that makes every call. It looks for two words in the
whole path, takes the verb for inspections if it finds one, and the verb for calls otherwise. A
client takes the segments of dots out of an address before it makes the request. The segments of a
path are the percent forms of literals, and these keep letters and dots as they are.

So a literal that holds one of the words makes the call an inspection, and a literal of one or two
dots takes segments away; every other literal leaves the route alone (`routed_by_literals`).
-/

namespace Grounding

open Text Lexing

/-! ### Verbs -/

/-- How a request is made. -/
inductive Verb where
  /-- For inspections. -/
  | get
  /-- For calls. -/
  | post
deriving DecidableEq, Repr

namespace Verb

/-- The verb of the statement that makes a request for the path. -/
def ofStatement? (line : String) : Option Verb :=
  if line = "response = self.client.get(path)" then some .get
  else if line = "response = self.client.post(path)" then some .post
  else none

/-- The words that are looked for in the path by a condition, which is divided by blanks. -/
def soughtWords? : List String → Option (List (List Char))
  | literal :: "in" :: "path" :: "or" :: rest => do
    let (word, _) ← readLiteral? literal.toList
    return word :: (← soughtWords? rest)
  | [literal, "in", "path:"] => do
    let (word, _) ← readLiteral? literal.toList
    return [word]
  | _ => none

/-- The words that are looked for in the path by the header of a block. -/
def condition? (header : String) : Option (List (List Char)) :=
  match (header.toList.splitOn ' ').map String.ofList with
  | "if" :: rest => soughtWords? rest
  | _ => none

/-- The verb by which code makes its request for a path: by the first of two statements if the
path holds a word that is looked for, and else by the second. -/
def ofCode? (path : List Char) : List Code → Option Verb
  | .block header [.statement (.plain yes)] :: .block "else:" [.statement (.plain no)] :: _ => do
    let words ← condition? header
    ofStatement? (if words.any (occursIn · path) then yes else no)
  | _ :: rest => ofCode? path rest
  | [] => none

end Verb

def Code.bodyOf? (header : String) : List Code → Option (List Code)
  | .block first body :: rest => if first = header then some body else bodyOf? header rest
  | _ :: rest => bodyOf? header rest
  | [] => none

/-- The verb by which a driver makes the request for a path. -/
def Heading.verb? (h : Heading) (path : List Char) : Option Verb :=
  (Code.bodyOf? "def call_method(self, path):" h.helpers).bind (Verb.ofCode? path)

def inspectionWords : List (List Char) := ["getState".toList, "getScenario".toList]

def Inspects (s : List Char) : Prop := ∃ w ∈ inspectionWords, w <:+: s

instance (s : List Char) : Decidable (Inspects s) :=
  inferInstanceAs (Decidable (∃ w ∈ inspectionWords, w <:+: s))

theorem condition?_callHelper :
    Verb.condition? "if \"getState\" in path or \"getScenario\" in path:" =
      some inspectionWords := by
  decide +kernel

variable {h : Heading}

/-- Every driver of a path grounding inspects by the paths that hold one of two words, and makes all
other calls by the other verb. -/
theorem Heading.verb?_of_rest (hb : h.backend = .rest) (path : List Char) :
    h.verb? path = some (if Inspects path then .get else .post) := by
  have hhelper : h.verb? path =
      (Verb.condition? "if \"getState\" in path or \"getScenario\" in path:").bind fun words =>
        Verb.ofStatement? (if words.any (occursIn · path) then "response = self.client.get(path)"
          else "response = self.client.post(path)") := by
    rw [Heading.verb?, Heading.helpers, hb]
    rfl
  have hany : inspectionWords.any (occursIn · path) = true ↔ Inspects path := by
    simp only [List.any_eq_true, occursIn_iff, Inspects]
  rw [hhelper, condition?_callHelper, Option.bind_some]
  by_cases hpath : Inspects path
  · rw [if_pos (hany.2 hpath), if_pos hpath]
    rfl
  · rw [if_neg (fun h => hpath (hany.1 h)), if_neg hpath]
    rfl

/-! ### Segments of dots -/

/-- Whether a segment stands for a place and not for a name. -/
def isDots (s : List Char) : Bool := s == ['.'] || s == ['.', '.']

/-- Goes on by a segment: one dot stays in place, and two dots go back. -/
def followSegment (kept : List (List Char)) (s : List Char) : List (List Char) :=
  if s = ['.'] then kept else if s = ['.', '.'] then kept.dropLast else kept ++ [s]

/-- What a client makes of the segments behind the root of an address, the last of which is no
segment of dots. -/
def removeDots (segments : List (List Char)) : List (List Char) := segments.foldl followSegment []

variable {segments : List (List Char)}

theorem followSegment_of_not_isDots {s : List Char} (hs : isDots s = false)
    (kept : List (List Char)) : followSegment kept s = kept ++ [s] := by
  rw [isDots, Bool.or_eq_false_iff, beq_eq_false_iff_ne, beq_eq_false_iff_ne] at hs
  rw [followSegment, if_neg hs.1, if_neg hs.2]

theorem foldl_followSegment (hs : ∀ s ∈ segments, isDots s = false) (kept : List (List Char)) :
    segments.foldl followSegment kept = kept ++ segments := by
  induction segments generalizing kept with
  | nil => rw [List.foldl_nil, List.append_nil]
  | cons s segments ih =>
    rw [List.forall_mem_cons] at hs
    rw [List.foldl_cons, followSegment_of_not_isDots hs.1, ih hs.2, List.append_assoc,
      List.singleton_append]

theorem length_foldl_followSegment_le (segments kept : List (List Char)) :
    (segments.foldl followSegment kept).length + segments.countP isDots ≤
      kept.length + segments.length := by
  induction segments generalizing kept with
  | nil => simp
  | cons s segments ih =>
    have hrest := ih (followSegment kept s)
    have hone : (followSegment kept s).length + (if isDots s then 1 else 0) ≤ kept.length + 1 := by
      cases hs : isDots s with
      | false => simp [followSegment_of_not_isDots hs]
      | true =>
        rw [isDots, Bool.or_eq_true, beq_iff_eq, beq_iff_eq] at hs
        rcases hs with rfl | rfl
        · simp [followSegment]
        · simp [followSegment]
    rw [List.foldl_cons, List.countP_cons, List.length_cons]
    omega

theorem removeDots_eq_self_iff :
    removeDots segments = segments ↔ ∀ s ∈ segments, isDots s = false := by
  constructor
  · intro h
    have hlength := length_foldl_followSegment_le segments []
    rw [← removeDots, h, List.length_nil] at hlength
    have hcount : segments.countP isDots = 0 := by omega
    simpa only [List.countP_eq_zero, Bool.not_eq_true] using hcount
  · intro h
    rw [removeDots, foldl_followSegment h, List.nil_append]

theorem isDots_percentEncode (s : String) : isDots (percentEncode s).toList = isDots s.toList := by
  have hsegment : ∀ dots : String, percentEncode dots = dots →
      ((percentEncode s).toList = dots.toList ↔ s.toList = dots.toList) := by
    intro dots hdots
    rw [String.toList_inj, String.toList_inj]
    constructor
    · intro h
      have hdecoded := percentDecode?_percentEncode s
      rw [h, ← hdots, percentDecode?_percentEncode] at hdecoded
      exact (Option.some.inj hdecoded).symm
    · rintro rfl
      exact hdots
  have hone := hsegment "." (by decide +kernel)
  have htwo := hsegment ".." (by decide +kernel)
  rw [Bool.eq_iff_iff, isDots, isDots, Bool.or_eq_true, Bool.or_eq_true]
  simp only [beq_iff_eq]
  exact or_congr hone htwo

/-! ### Words in paths -/

theorem inspectionWords_letters :
    ∀ w ∈ inspectionWords, w.all isWordLetter = true ∧ w ≠ [] ∧ '/' ∉ w := by decide

/-- The words of inspections come into a path with the name of the operation or with a literal. -/
theorem inspects_pathText (operation : String) (literals : List String) :
    Inspects (Call.pathText operation literals).toList ↔
      Inspects operation.toList ∨ ∃ s ∈ literals, Inspects s.toList := by
  have hword : ∀ w ∈ inspectionWords, w <:+: (Call.pathText operation literals).toList ↔
      w <:+: operation.toList ∨ ∃ s ∈ literals, w <:+: s.toList := by
    intro w hw
    obtain ⟨hletters, hne, hslash⟩ := inspectionWords_letters w hw
    rw [Call.toList_pathText, infix_intercalate_iff hslash hne]
    simp [infix_percentEncode_iff hletters hne, hne]
  constructor
  · rintro ⟨w, hw, h⟩
    rcases (hword w hw).1 h with h | ⟨s, hs, h⟩
    · exact .inl ⟨w, hw, h⟩
    · exact .inr ⟨s, hs, w, hw, h⟩
  · rintro (⟨w, hw, h⟩ | ⟨s, hs, w, hw, h⟩)
    · exact ⟨w, hw, (hword w hw).2 (.inl h)⟩
    · exact ⟨w, hw, (hword w hw).2 (.inr ⟨s, hs, h⟩)⟩

namespace Backend

variable {o : Operation} {values : List Value}

/-- An operation whose name holds no word of inspections, and whose inputs have values, is called by
one path. Its segments are those of the name, one for each input in order, and an empty one. Every
driver of a path grounding makes this call by the verb for calls, unless the literal of an input
holds one of the words. And wherever the path is put behind the root, all segments stay in place,
unless the name has a segment of dots or the literal of an input is one. -/
theorem routed_by_literals (hname : ¬ Inspects o.name.toList)
    (hvalues : List.Forall₂ (fun p x => p.evaluate = .ok x) o.inputs values) :
    ∃ path segments, (∀ p, CallsPath o p ↔ p = path) ∧
      path.toList.splitOn '/' = o.name.toList.splitOn '/' ++ (segments ++ [[]]) ∧
      List.Forall₂ (fun s x => isDots s = isDots x.literal.toList) segments values ∧
      (∀ h : Heading, h.backend = .rest → h.verb? path.toList =
        some (if ∃ x ∈ values, Inspects x.literal.toList then .get else .post)) ∧
      ∀ base, (∀ s ∈ base, isDots s = false) →
        (removeDots (base ++ path.toList.splitOn '/') = base ++ path.toList.splitOn '/' ↔
          (∀ s ∈ o.name.toList.splitOn '/', isDots s = false) ∧
            ∀ x ∈ values, isDots x.literal.toList = false) := by
  have hsplit := splitOn_pathText_append o.name (values.map Value.literal)
  refine ⟨Call.pathText o.name (values.map Value.literal),
    (values.map Value.literal).map fun s => (percentEncode s).toList,
    fun _ => callsPath_iff hvalues, hsplit, ?_, ?_, ?_⟩
  · rw [List.map_map, List.forall₂_map_left_iff, List.forall₂_same]
    intro x _
    exact isDots_percentEncode x.literal
  · intro h hb
    have hword : Inspects (Call.pathText o.name (values.map Value.literal)).toList ↔
        ∃ x ∈ values, Inspects x.literal.toList := by
      rw [inspects_pathText, or_iff_right hname]
      simp only [List.mem_map, exists_exists_and_eq_and]
    rw [h.verb?_of_rest hb]
    simp only [hword]
  · intro base hbase
    rw [removeDots_eq_self_iff, hsplit]
    simp only [List.forall_mem_append, List.forall_mem_map, isDots_percentEncode]
    constructor
    · rintro ⟨-, hparts, hliterals, -⟩
      exact ⟨hparts, hliterals⟩
    · rintro ⟨hparts, hliterals⟩
      exact ⟨hbase, hparts, hliterals, by simp [isDots]⟩

def putText (text : String) : Operation :=
  ⟨"put", [⟨"key", "String", some text, true⟩], [], []⟩

theorem putText_evaluates {text : String} (hne : text.toList.isEmpty = false) :
    List.Forall₂ (fun p x => p.evaluate = .ok x) (putText text).inputs [.text text] := by
  refine .cons ?_ .nil
  rw [Parameter.evaluate_of_primitive (q := .string) rfl rfl]
  refine Primitive.ofLiteral_eq_ok hne ?_
  rw [Primitive.ofLiteral?, Option.getD_some, String.ofList_toList]
  rfl

theorem callsPath_putText {text : String} (hne : text.toList.isEmpty = false) :
    CallsPath (putText text) (Call.pathText "put" [text]) := by
  have hliteral : Value.literal (.text text) = text := String.ofList_toList
  rw [callsPath_iff (putText_evaluates hne), List.map_singleton, hliteral, putText]

/-- A text with three dots and a part of a word of inspections leaves the route alone. -/
theorem routed_by_literals_put :
    ¬ Inspects (putText "...getSta te").name.toList ∧
      List.Forall₂ (fun p x => p.evaluate = .ok x) (putText "...getSta te").inputs
        [.text "...getSta te"] ∧
      CallsPath (putText "...getSta te") "put/...getSta%20te/" ∧
      (∀ h : Heading, h.backend = .rest →
        h.verb? "put/...getSta%20te/".toList = some .post) ∧
      removeDots ("bank".toList :: "put/...getSta%20te/".toList.splitOn '/') =
        "bank".toList :: "put/...getSta%20te/".toList.splitOn '/' := by
  have hname : ¬ Inspects (putText "...getSta te").name.toList := by decide +kernel
  have hvalues : List.Forall₂ (fun p x => p.evaluate = .ok x) (putText "...getSta te").inputs
      [.text "...getSta te"] := putText_evaluates (by decide)
  have htext : Call.pathText "put" ["...getSta te"] = "put/...getSta%20te/" := by decide +kernel
  have hcall : CallsPath (putText "...getSta te") "put/...getSta%20te/" :=
    htext ▸ callsPath_putText (by decide)
  obtain ⟨path, segments, hpath, -, -, hverb, hdots⟩ := routed_by_literals hname hvalues
  obtain rfl := (hpath _).1 hcall
  refine ⟨hname, hvalues, hcall, ?_, ?_⟩
  · intro h hb
    rw [hverb h hb]
    decide +kernel
  · exact (hdots ["bank".toList] (by decide +kernel)).2 (by decide +kernel)

/-- A text that is a word of inspections makes the call an inspection, and two dots as a text lead
to another place than the operation. -/
theorem rerouted_by_text :
    ¬ Inspects (putText "getState").name.toList ∧
      List.Forall₂ (fun p x => p.evaluate = .ok x) (putText "getState").inputs
        [.text "getState"] ∧
      CallsPath (putText "getState") "put/getState/" ∧ Inspects "put/getState/".toList ∧
      (∀ h : Heading, h.backend = .rest → h.verb? "put/getState/".toList = some .get) ∧
      List.Forall₂ (fun p x => p.evaluate = .ok x) (putText "..").inputs [.text ".."] ∧
      CallsPath (putText "..") "put/../" ∧
      removeDots ("bank".toList :: "put/../".toList.splitOn '/') = ["bank".toList, []] := by
  have hstate : Call.pathText "put" ["getState"] = "put/getState/" := by decide +kernel
  have hdots : Call.pathText "put" [".."] = "put/../" := by decide +kernel
  have hinspects : Inspects "put/getState/".toList := by decide +kernel
  refine ⟨by decide +kernel, putText_evaluates (by decide), ?_, hinspects, ?_,
    putText_evaluates (by decide), ?_, by decide +kernel⟩
  · exact hstate ▸ callsPath_putText (by decide)
  · intro h hb
    rw [h.verb?_of_rest hb, if_pos hinspects]
  · exact hdots ▸ callsPath_putText (by decide)

end Backend

end Grounding
