import Grounding.Descriptor.Grammar
import Grounding.Text.Blank
import Grounding.Text.TopLevel

/-!
# Reading descriptors

A generic descriptor is a container name, the first opening delimiter, parameters that are balanced
in all kinds of bracket, and a closing delimiter that ends the text. Without delimiters a text is a
primitive name or the name of an external type. `Descriptor.Derives` states the same as a grammar.
-/

namespace Grounding.Descriptor

open Text

def ofName (name : String) : Descriptor :=
  match Primitive.ofName? name with
  | some p => .primitive p
  | none => .external name

/-- The outermost layer of a descriptor, with the texts of its parameters. -/
inductive Layer where
  | name (d : Descriptor)
  | list (element : List Char)
  | set (element : List Char)
  | map (key value : List Char)
  | pair (first second : List Char)

/-- The texts of the parameters. -/
def Layer.parts : Layer → List (List Char)
  | name _ => []
  | list e | set e => [e]
  | map k v | pair k v => [k, v]

/-- Reads a container whose name and parameters have been separated; `shown` is the whole text. -/
def readGeneric (g : Grammar) (shown : String) (base : List Char) (parts : List (List Char)) :
    Except DescriptorError Layer :=
  let base := String.ofList (strip base)
  match g.container? base, parts.map strip with
  | none, _ => .error (.unrecognised shown)
  | some .list, [e] => .ok (.list e)
  | some .set, [e] => .ok (.set e)
  | some .map, [k, v] => .ok (.map k v)
  | some .pair, [k, v] => .ok (.pair k v)
  | some c, _ => .error (.arity base shown c.arity)

/-- Reads the outermost layer of a text without blanks around it. -/
def readStripped (g : Grammar) (text : List Char) : Except DescriptorError Layer :=
  let shown := String.ofList text
  match text.dropWhile (· != g.opening) with
  | [] =>
    if text.contains g.closing then .error (.badlyFormedGeneric shown)
    else if text.any isBracket then .error (.badlyFormed shown)
    else .ok (.name (ofName shown))
  | _ :: rest =>
    if rest.getLast? == some g.closing && balanced rest.dropLast then
      readGeneric g shown (text.takeWhile (· != g.opening)) (splitTopLevel [','] rest.dropLast)
    else .error (.badlyFormedGeneric shown)

def readLayer (g : Grammar) (raw : List Char) : Except DescriptorError Layer :=
  if (strip raw).isEmpty then .error (.empty (String.ofList raw)) else readStripped g (strip raw)

theorem mem_map_strip_of_readGeneric {g : Grammar} {shown : String} {base : List Char}
    {parts : List (List Char)} {l : Layer} (h : readGeneric g shown base parts = .ok l)
    {p : List Char} (hp : p ∈ l.parts) : p ∈ parts.map strip := by
  simp only [readGeneric] at h
  generalize parts.map strip = stripped at h ⊢
  split at h <;> cases h <;> simpa [Layer.parts] using hp

theorem length_lt_of_readStripped {g : Grammar} {text : List Char} {l : Layer}
    (h : readStripped g text = .ok l) {p : List Char} (hp : p ∈ l.parts) :
    p.length < text.length := by
  simp only [readStripped] at h
  split at h
  · split at h
    · cases h
    · split at h
      · cases h
      · cases h; simp [Layer.parts] at hp
  · next c rest heq =>
    split at h
    · obtain ⟨q, hq, rfl⟩ := List.mem_map.1 (mem_map_strip_of_readGeneric h hp)
      have h₁ := length_le_of_mem_splitTopLevel hq
      have h₂ := length_strip_le q
      have h₃ := congrArg List.length heq
      have h₄ := (List.dropWhile_sublist (l := text) (· != g.opening)).length_le
      simp only [List.length_dropLast, List.length_cons] at h₁ h₃
      omega
    · cases h

theorem length_lt_of_readLayer {g : Grammar} {raw : List Char} {l : Layer}
    (h : readLayer g raw = .ok l) {p : List Char} (hp : p ∈ l.parts) : p.length < raw.length := by
  simp only [readLayer] at h
  split at h
  · cases h
  · exact Nat.lt_of_lt_of_le (length_lt_of_readStripped h hp) (length_strip_le raw)

/-- Reads a descriptor layer by layer. -/
def parseChars (g : Grammar) (raw : List Char) : Except DescriptorError Descriptor :=
  match _h : readLayer g raw with
  | .error e => .error e
  | .ok (.name d) => .ok d
  | .ok (.list e) => do return .list (← parseChars g e)
  | .ok (.set e) => do return .set (← parseChars g e)
  | .ok (.map k v) => do return .map (← parseChars g k) (← parseChars g v)
  | .ok (.pair k v) => do return .pair (← parseChars g k) (← parseChars g v)
termination_by raw.length
decreasing_by all_goals exact length_lt_of_readLayer _h (by simp [Layer.parts])

def parse (g : Grammar) (text : String) : Except DescriptorError Descriptor :=
  parseChars g text.toList

/-! ### The grammar as a relation -/

/--
A text that is a container name, blanks, and parameters between the delimiters, none of which has a
comma outside brackets.
-/
def IsApplication (g : Grammar) (c : Container) (parts : List (List Char)) (t : List Char) : Prop :=
  (∃ w, (∀ x ∈ w, isBlank x = true) ∧
    strip t = (g.baseName c).toList ++ w ++ g.opening :: [','].intercalate parts ++ [g.closing]) ∧
  ∀ p ∈ parts, Undivided [','] 0 p

/--
The grammar of descriptors, on texts that may have blanks around them. What has no bracket is the
name of a primitive type if it can be, and else that of an external type.
-/
inductive Derives (g : Grammar) : List Char → Descriptor → Prop
  | primitive {t : List Char} {p : Primitive} : strip t = p.name.toList → Derives g t (.primitive p)
  | external {t : List Char} {name : String} : strip t = name.toList → strip t ≠ [] →
      (∀ c ∈ strip t, isBracket c = false) → (∀ p : Primitive, name ≠ p.name) →
      Derives g t (.external name)
  | list {t p : List Char} {e : Descriptor} :
      IsApplication g .list [p] t → Derives g p e → Derives g t (.list e)
  | set {t p : List Char} {e : Descriptor} :
      IsApplication g .set [p] t → Derives g p e → Derives g t (.set e)
  | map {t p q : List Char} {k v : Descriptor} :
      IsApplication g .map [p, q] t → Derives g p k → Derives g q v → Derives g t (.map k v)
  | pair {t p q : List Char} {a b : Descriptor} :
      IsApplication g .pair [p, q] t → Derives g p a → Derives g q b → Derives g t (.pair a b)

end Grounding.Descriptor

namespace Grounding

/-! ### Tests on the text of a descriptor -/

def isPrimitiveText (text : String) : Bool := (Primitive.ofName? text).isSome

/-- The primitive names as one text. -/
def literalTypeNames : String :=
  "String, Integer, Double, Boolean, Character, Short, Float, Long, Byte"

/-- Whether the first text occurs somewhere in the second. -/
def occursIn (part : List Char) : List Char → Bool
  | [] => part.isEmpty
  | c :: rest => part.isPrefixOf (c :: rest) || occursIn part rest

/--
Whether values of a type are written as literals in a driver. Every fragment of `literalTypeNames`
passes, a part of a name or a separator too.
-/
def isLiteralText (text : String) : Bool := occursIn text.toList literalTypeNames.toList

/-- Whether a text holds both delimiters of one grammar. -/
def isGenericText (text : String) : Bool :=
  [Grammar.bracket, Grammar.angle].any fun g =>
    text.toList.contains g.opening && text.toList.contains g.closing

end Grounding
