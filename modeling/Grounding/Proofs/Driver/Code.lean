import Grounding.Driver.Code

/-!
# Code in parts

A piece of code ends at the depth at which it began. So pieces that follow each other are laid out
one by one, and none of them changes how the next is indented. The statements in code, too, are
those of its pieces.
-/

namespace Grounding

/-! ### Text -/

theorem Layout.run_append (depth : Nat) (xs ys : List Layout.Step) :
    run depth (xs ++ ys) = run depth xs ++ run (xs.foldl Step.depthAfter depth) ys := by
  induction xs generalizing depth with
  | nil => exact String.empty_append.symm
  | cons x xs ih =>
    rw [List.cons_append, run, ih, ← String.append_assoc]
    rfl

namespace Code

mutual

theorem depthAfter_steps (depth : Nat) :
    ∀ c : Code, c.steps.foldl Layout.Step.depthAfter depth = depth
  | .statement _ | .blank _ | .docstring _ => rfl
  | .block _ body => by
    rw [steps, List.cons_append, List.foldl_cons, List.foldl_append, depthAfter_stepsOfList _ body]
    rfl

theorem depthAfter_stepsOfList (depth : Nat) :
    ∀ cs : List Code, (stepsOfList cs).foldl Layout.Step.depthAfter depth = depth
  | [] => rfl
  | c :: rest => by
    rw [stepsOfList, List.foldl_append, depthAfter_steps _ c, depthAfter_stepsOfList _ rest]

end

theorem stepsOfList_append (cs ds : List Code) :
    stepsOfList (cs ++ ds) = stepsOfList cs ++ stepsOfList ds := by
  induction cs with
  | nil => rfl
  | cons c cs ih => rw [List.cons_append, stepsOfList, stepsOfList, ih, List.append_assoc]

theorem textAt_append (depth : Nat) (cs ds : List Code) :
    textAt depth (cs ++ ds) = textAt depth cs ++ textAt depth ds := by
  rw [textAt, stepsOfList_append, Layout.run_append, depthAfter_stepsOfList]
  rfl

theorem textAt_block (depth : Nat) (header : String) (body : List Code) :
    textAt depth [.block header body] = Layout.line depth header ++ textAt (depth + 1) body := by
  have hleave : Layout.run (depth + 1) [.leave] = "" := rfl
  have hsteps : stepsOfList [.block header body] =
      .block header :: (stepsOfList body ++ [.leave]) := List.append_nil _
  rw [textAt, hsteps, Layout.run, Layout.run_append]
  show _ ++ (Layout.run (depth + 1) (stepsOfList body) ++ Layout.run
    ((stepsOfList body).foldl Layout.Step.depthAfter (depth + 1)) [.leave]) = _
  rw [depthAfter_stepsOfList, hleave, String.append_empty]
  rfl

theorem textAt_flatMap {α : Type} (depth : Nat) (f : α → List Code) (as : List α) :
    textAt depth (as.flatMap f) = String.join (as.map fun a => textAt depth (f a)) := by
  induction as with
  | nil => rfl
  | cons a as ih => rw [List.flatMap_cons, textAt_append, ih, List.map_cons, String.join_cons]

/-! ### Statements -/

mutual

/-- The statements in a piece of code, at any depth. -/
def statements : Code → List Statement
  | statement s => [s]
  | blank _ | docstring _ => []
  | block _ body => statementsIn body

/-- The statements in code, at any depth. -/
def statementsIn : List Code → List Statement
  | [] => []
  | c :: rest => c.statements ++ statementsIn rest

end

theorem statementsIn_append (cs ds : List Code) :
    statementsIn (cs ++ ds) = statementsIn cs ++ statementsIn ds := by
  induction cs with
  | nil => rfl
  | cons c cs ih => rw [List.cons_append, statementsIn, statementsIn, ih, List.append_assoc]

theorem statementsIn_map_statement (ss : List Statement) :
    statementsIn (ss.map .statement) = ss := by
  induction ss with
  | nil => rfl
  | cons s ss ih => rw [List.map_cons, statementsIn, ih, statements, List.singleton_append]

theorem mem_statementsIn_iff {s : Statement} {cs : List Code} :
    s ∈ statementsIn cs ↔ ∃ c ∈ cs, s ∈ c.statements := by
  induction cs with
  | nil => exact iff_of_false nofun nofun
  | cons c cs ih => simp [statementsIn, ih]

end Code

end Grounding
