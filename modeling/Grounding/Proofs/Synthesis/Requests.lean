import Grounding.Proofs.Outcome
import Grounding.Synthesis.Host

/-!
# What a driver asks of its host

Everything that changes the state of a host is a request: a constructor is registered, a package is
added, a type is resolved, or a value of an external type is made. A synthesis is observed in a
monad that keeps record of its requests. It ends as it does unobserved, and replaying its requests
leads to the same state (`tracks_create`, `tracks_decode`). So the state at every point of a run,
in the middle of a synthesis too, is that after the requests so far (`replay_requests`).
-/

namespace Grounding

open Synthesis Outcome

namespace Host

/-! ### Requests -/

/-- Something that is asked of a host. -/
inductive Request where
  | register (type : String) (c : Constructor)
  | usePackage (package : String)
  | resolve (type : String)
  | ofIdentifier (type identifier : String)
  | ofMembers (type : String) (members : List (String × Json))

/-- A value of an external type is asked for. -/
inductive Request.IsConstruction : Request → Prop
  | ofIdentifier (type identifier : String) : IsConstruction (.ofIdentifier type identifier)
  | ofMembers (type : String) (members : List (String × Json)) :
      IsConstruction (.ofMembers type members)

variable (lib : Library)

def Request.after (h : Host) : Request → Host
  | .register type c => h.register type c
  | .usePackage package => h.usePackage package
  | .resolve type => ((Host.resolve lib type).run h).2
  | .ofIdentifier type identifier => ((Host.ofIdentifier lib type identifier).run h).2
  | .ofMembers type members => ((Host.ofMembers lib type members).run h).2

def replay (h : Host) (asked : List Request) : Host := asked.foldl (Request.after lib) h

theorem replay_append (h : Host) (asked more : List Request) :
    replay lib h (asked ++ more) = replay lib (replay lib h asked) more :=
  List.foldl_append

theorem replay_append_singleton (h : Host) (asked : List Request) (r : Request) :
    replay lib h (asked ++ [r]) = r.after lib (replay lib h asked) :=
  replay_append lib h asked [r]

end Host

open Host

/-! ### Observation -/

/-- A synthesis in a driver that keeps record of what it asks of its host. -/
abbrev Observed := ExceptT Fault (StateM (Host × List Request))

/-- Records a request beside what it comes to. -/
def observe {α : Type} (r : Request) (x : Hosted α) : Observed α :=
  ExceptT.mk fun s => ((x.run s.1).1, (x.run s.1).2, s.2 ++ [r])

def observed (lib : Library) : Externals Observed where
  ofIdentifier type identifier :=
    observe (.ofIdentifier type identifier) (Host.ofIdentifier lib type identifier)
  ofMembers type members := observe (.ofMembers type members) (Host.ofMembers lib type members)

/-- An observed outcome is that of the unobserved synthesis, in the state to which replaying the
requests of constructions leads that have been recorded since. -/
def Recorded {α : Type} (lib : Library) (h : Host) (asked : List Request)
    (outcome : Except Fault α × Host) (recorded : Except Fault α × Host × List Request) : Prop :=
  ∃ new, recorded = (outcome.1, outcome.2, asked ++ new) ∧ replay lib h new = outcome.2 ∧
    ∀ r ∈ new, r.IsConstruction

/-- The second synthesis is the first one under observation. -/
def Tracks {α : Type} (lib : Library) (x : Hosted α) (y : Observed α) : Prop :=
  ∀ h asked, Recorded lib h asked (x.run h) (y.run (h, asked))

section

variable {lib : Library} {α β : Type}

theorem recorded_nil (h : Host) (asked : List Request) (r : Except Fault α) :
    Recorded lib h asked (r, h) (r, h, asked) :=
  ⟨[], by rw [List.append_nil], rfl, List.forall_mem_nil _⟩

theorem Recorded.later {h h₁ : Host} {asked new : List Request} {outcome : Except Fault α × Host}
    {recorded : Except Fault α × Host × List Request} (hreplay : replay lib h new = h₁)
    (hnew : ∀ r ∈ new, r.IsConstruction)
    (hlater : Recorded lib h₁ (asked ++ new) outcome recorded) :
    Recorded lib h asked outcome recorded := by
  obtain ⟨more, hrecorded, hreplay', hmore⟩ := hlater
  refine ⟨new ++ more, ?_, ?_, List.forall_mem_append.2 ⟨hnew, hmore⟩⟩
  · rw [hrecorded, List.append_assoc]
  · rw [replay_append, hreplay, hreplay']

theorem tracks_pure (a : α) : Tracks lib (pure a) (pure a) :=
  fun h asked => recorded_nil h asked (.ok a)

theorem tracks_throw (f : Fault) : Tracks (α := α) lib (throw f) (throw f) :=
  fun h asked => recorded_nil h asked (.error f)

theorem tracks_observe {r : Request} {x : Hosted α} (hr : r.IsConstruction)
    (hafter : ∀ h, r.after lib h = (x.run h).2) : Tracks lib x (observe r x) :=
  fun h _ => ⟨[r], rfl, hafter h, List.forall_mem_singleton.2 hr⟩

theorem Tracks.bind {x : Hosted α} {y : Observed α} {k : α → Hosted β} {l : α → Observed β}
    (hx : Tracks lib x y) (hk : ∀ a, Tracks lib (k a) (l a)) :
    Tracks lib (x >>= k) (y >>= l) := by
  intro h asked
  obtain ⟨new, hrun, hreplay, hnew⟩ := hx h asked
  rw [run_bind, run_bind, hrun]
  rcases hxrun : x.run h with ⟨f | a, h₁⟩ <;> rw [hxrun] at hreplay
  · exact ⟨new, rfl, hreplay, hnew⟩
  · exact (hk a h₁ (asked ++ new)).later hreplay hnew

theorem Tracks.tryCatch {x : Hosted α} {y : Observed α} {k : Fault → Hosted α}
    {l : Fault → Observed α} (hx : Tracks lib x y) (hk : ∀ f, Tracks lib (k f) (l f)) :
    Tracks lib (tryCatch x k) (tryCatch y l) := by
  intro h asked
  obtain ⟨new, hrun, hreplay, hnew⟩ := hx h asked
  rw [run_tryCatch, run_tryCatch, hrun]
  rcases hxrun : x.run h with ⟨f | a, h₁⟩ <;> rw [hxrun] at hreplay
  · exact (hk f h₁ (asked ++ new)).later hreplay hnew
  · exact ⟨new, rfl, hreplay, hnew⟩

theorem Tracks.mapM {as : List α} {x : α → Hosted β} {y : α → Observed β}
    (h : ∀ a, Tracks lib (x a) (y a)) : Tracks lib (as.mapM x) (as.mapM y) := by
  induction as with
  | nil => exact tracks_pure []
  | cons a as ih =>
    rw [List.mapM_cons, List.mapM_cons]
    exact (h a).bind fun b => ih.bind fun bs => tracks_pure (b :: bs)

theorem Tracks.foldlM {step : β → α → Hosted β} {step' : β → α → Observed β}
    (h : ∀ b a, Tracks lib (step b a) (step' b a)) (b : β) (as : List α) :
    Tracks lib (as.foldlM step b) (as.foldlM step' b) := by
  induction as generalizing b with
  | nil => exact tracks_pure b
  | cons a as ih =>
    rw [List.foldlM_cons, List.foldlM_cons]
    exact (h b a).bind fun b' => ih b'

theorem tracks_reading (r : Except LiteralError α) : Tracks lib (reading r) (reading r) := by
  cases r with
  | ok a => exact tracks_pure a
  | error e => exact tracks_throw _

theorem tracks_checked (r : Except Fault α) : Tracks lib (checked r) (checked r) := by
  cases r with
  | ok a => exact tracks_pure a
  | error f => exact tracks_throw f

/-! ### Syntheses -/

theorem tracks_ofIdentifier (type identifier : String) :
    Tracks lib ((externals lib).ofIdentifier type identifier)
      ((observed lib).ofIdentifier type identifier) :=
  tracks_observe (.ofIdentifier type identifier) fun _ => rfl

theorem tracks_ofMembers (type : String) (members : List (String × Json)) :
    Tracks lib ((externals lib).ofMembers type members)
      ((observed lib).ofMembers type members) :=
  tracks_observe (.ofMembers type members) fun _ => rfl

theorem tracks_create (d : Descriptor) (literal : List Char) :
    Tracks lib (create (externals lib) d literal) (create (observed lib) d literal) := by
  induction d generalizing literal with
  | primitive p => exact tracks_reading _
  | external type => exact tracks_ofIdentifier _ _
  | list e ih =>
    refine (tracks_reading _).bind fun parts => ?_
    exact Tracks.bind (.mapM fun part => ih _) fun xs => tracks_pure _
  | set e ih =>
    refine (tracks_reading _).bind fun parts => ?_
    refine Tracks.bind (.foldlM (fun xs part => ?_) _ _) fun xs => tracks_pure _
    exact (ih _).bind fun x => tracks_reading _
  | map k v ihk ihv =>
    refine (tracks_reading _).bind fun parts => ?_
    refine Tracks.bind (.foldlM (fun es part => ?_) _ _) fun es => tracks_pure _
    refine (tracks_reading _).bind fun components => ?_
    exact (ihk _).bind fun key => (ihv _).bind fun item => tracks_reading _
  | pair a b iha ihb =>
    refine (tracks_reading _).bind fun components => ?_
    exact (iha _).bind fun x => (ihb _).bind fun y => tracks_pure _

theorem tracks_decodeExternal (type : String) (data : Json) :
    Tracks lib (decodeExternal (externals lib) type data)
      (decodeExternal (observed lib) type data) := by
  unfold decodeExternal
  split
  · exact tracks_ofMembers _ _
  · exact tracks_throw _
  · exact tracks_ofIdentifier _ _

theorem tracks_decode (d : Descriptor) (data : Json) :
    Tracks lib (decode (externals lib) d data) (decode (observed lib) d data) := by
  induction d generalizing data with
  | primitive p =>
    unfold decode
    split
    · exact tracks_pure _
    · exact tracks_checked _
  | external type =>
    unfold decode
    split
    · exact tracks_pure _
    · exact tracks_decodeExternal _ _
  | list e ih =>
    unfold decode
    split
    · exact tracks_pure _
    · refine (tracks_reading _).bind fun items => ?_
      exact Tracks.bind (.mapM fun item => ih _) fun xs => tracks_pure _
  | set e ih =>
    unfold decode
    split
    · exact tracks_pure _
    · refine (tracks_reading _).bind fun items => ?_
      refine Tracks.bind (.foldlM (fun xs item => ?_) _ _) fun xs => tracks_pure _
      refine Tracks.tryCatch ?_ fun f => ?_
      · exact (ih _).bind fun x => (tracks_checked _).bind fun _ => tracks_pure _
      · split
        · exact tracks_throw _
        · exact tracks_throw _
  | map k v ihk ihv =>
    unfold decode
    split
    · exact tracks_pure _
    · refine (tracks_reading _).bind fun members => ?_
      refine Tracks.bind (.foldlM (fun es member => ?_) _ _) fun es => tracks_pure _
      refine (tracks_create _ _).bind fun key => (ihv _).bind fun x => ?_
      exact (tracks_checked _).bind fun _ => tracks_pure _
  | pair a b iha ihb =>
    unfold decode
    split
    · exact tracks_pure _
    · refine (tracks_reading _).bind fun components => ?_
      exact (iha _).bind fun x => (ihb _).bind fun y => tracks_pure _

end

/-! ### Runs -/

/-- A type as it is handed over. -/
inductive TypeArgument where
  | text (s : String)
  | descriptor (d : Descriptor)

/-- Something that a driver synthesises. -/
inductive Task where
  | create (literal : Option String) (type : TypeArgument)
  | createDefault (type : TypeArgument)
  | decode (data : Json) (type : TypeArgument)
  | decodeText (document : Option String) (type : String)

section

variable {m : Type → Type} [Monad m] [MonadExcept Fault m]

def TypeArgument.read : TypeArgument → m Descriptor
  | text s => readType .angle s
  | descriptor d => pure d

def Task.perform (ext : Externals m) : Task → m Value
  | create literal type => do Synthesis.create ext (← type.read) (literal.getD "").toList
  | createDefault type => do Synthesis.createDefault ext (← type.read)
  | decode data type => do Synthesis.decode ext (← type.read) data
  | decodeText document type => Synthesis.decodeText ext .angle document type

end

/-- A step of a driver: a request of its own, or a synthesis with its requests. -/
inductive Action where
  | ask (r : Request)
  | perform (task : Task)

section

variable (lib : Library)

def Action.after (h : Host) : Action → Host
  | ask r => r.after lib h
  | perform task => ((task.perform (externals lib)).run h).2

/-- What a step asks of the host. -/
def Action.requests (h : Host) : Action → List Request
  | ask r => [r]
  | perform task => ((task.perform (observed lib)).run (h, [])).2.2

def Host.run (h : Host) (actions : List Action) : Host := actions.foldl (Action.after lib) h

/-- What a run asks of the host. -/
def Host.requests : Host → List Action → List Request
  | _, [] => []
  | h, action :: rest => action.requests lib h ++ requests (action.after lib h) rest

end

section

variable {lib : Library}

theorem tracks_readType (type : String) :
    Tracks lib (readType .angle type) (readType .angle type) := by
  unfold readType
  split
  · exact tracks_pure _
  · exact tracks_throw _

theorem tracks_read (type : TypeArgument) : Tracks lib type.read type.read := by
  cases type with
  | text s => exact tracks_readType s
  | descriptor d => exact tracks_pure d

theorem tracks_perform (task : Task) :
    Tracks lib (task.perform (externals lib)) (task.perform (observed lib)) := by
  cases task with
  | create literal type => exact (tracks_read type).bind fun d => tracks_create d _
  | createDefault type => exact (tracks_read type).bind fun d => tracks_create d _
  | decode data type => exact (tracks_read type).bind fun d => tracks_decode d data
  | decodeText document type =>
    have hread : ∀ data, Tracks lib
        (do Synthesis.decode (externals lib) (← readType .angle type) data)
        (do Synthesis.decode (observed lib) (← readType .angle type) data) :=
      fun data => (tracks_readType type).bind fun d => tracks_decode d data
    unfold Task.perform decodeText
    cases document with
    | none => exact (tracks_pure _).bind hread
    | some text =>
      dsimp only
      split
      · exact (tracks_pure _).bind hread
      · exact (tracks_throw _).bind hread

theorem Action.recorded_requests (h : Host) (task : Task) :
    replay lib h ((perform task).requests lib h) = (perform task).after lib h ∧
      ∀ r ∈ (perform task).requests lib h, r.IsConstruction := by
  have htracks : Tracks lib (task.perform (externals lib)) (task.perform (observed lib)) :=
    tracks_perform task
  obtain ⟨new, hrun, hreplay, hnew⟩ := htracks h []
  have hrequests : (perform task).requests lib h = new := by
    rw [requests, hrun]
    rfl
  rw [hrequests]
  exact ⟨hreplay, hnew⟩

theorem Action.replay_requests (h : Host) (action : Action) :
    replay lib h (action.requests lib h) = action.after lib h := by
  cases action with
  | ask r => rfl
  | perform task => exact (recorded_requests h task).1

theorem Host.replay_requests (h : Host) (actions : List Action) :
    replay lib h (requests lib h actions) = run lib h actions := by
  induction actions generalizing h with
  | nil => rfl
  | cons action actions ih =>
    rw [requests, replay_append, Action.replay_requests, ih, run, run, List.foldl_cons]

theorem Host.ask_mem_of_mem_requests {h : Host} {actions : List Action} {r : Request}
    (hr : r ∈ requests lib h actions) : r.IsConstruction ∨ Action.ask r ∈ actions := by
  induction actions generalizing h with
  | nil => cases hr
  | cons action actions ih =>
    rw [requests, List.mem_append] at hr
    rcases hr with hr | hr
    · cases action with
      | ask r' =>
        obtain rfl : r = r' := List.mem_singleton.1 hr
        exact .inr List.mem_cons_self
      | perform task => exact .inl ((Action.recorded_requests h task).2 r hr)
    · exact (ih hr).imp_right (List.mem_cons_of_mem _)

end

end Grounding
