import FerroCP.Engine

/-!
# Engine objects own their handles

A client program constructs, moves, uses and destroys `Engine` objects in any order. A `Heap`
holds the live objects by address together with the trace of effects on the native side;
`Heap.step` runs one operation as the methods of `ferrocp.hpp:232-291` do, and `Heap.run` runs a
sequence of them while the native library keeps its side of the contract: `ferrocp_engine_create`
does not return a nonzero handle that is live.

`Heap.Inv` holds in every state a run reaches. It gives: no two objects share a nonzero handle,
each `ferrocp_engine_destroy` gets a nonzero handle that is live, each `ferrocp_copy` gets `0` or a
live handle, and once no object is left every handle has been destroyed as often as created.
-/

namespace FerroCP

/-! ## The native side's view of the trace -/

/-- Whether `h` is live after one more effect: a create returning it makes it live, a destroy
    of it ends it, and any other effect leaves it as it was. -/
def liveStep (h : EngineHandle) (live : Bool) : Effect → Bool
  | .call (.engineCreate c) => if c = h then true else live
  | .call (.engineDestroy d) => if d = h then false else live
  | _ => live

/-- Whether `h` names a live engine after `effects`: the last create or destroy of `h` was a
    create. -/
def EngineLive (h : EngineHandle) (effects : List Effect) : Bool :=
  effects.foldl (liveStep h) false

/-- How often `ferrocp_engine_create` returned `h`. -/
def createCount (h : EngineHandle) (effects : List Effect) : Nat :=
  effects.count (.call (.engineCreate h))

/-- How often `ferrocp_engine_destroy` got `h`. -/
def destroyCount (h : EngineHandle) (effects : List Effect) : Nat :=
  effects.count (.call (.engineDestroy h))

/-- What the wrapper may pass to the native side: `ferrocp_engine_destroy` a nonzero live
    handle, `ferrocp_copy` `0` or a live handle. -/
def HandleUse (pre : List Effect) : Effect → Prop
  | .call (.engineDestroy h) => h ≠ 0 ∧ EngineLive h pre = true
  | .call (.copy h _) => h = 0 ∨ EngineLive h pre = true
  | _ => True

/-- The effects that make up the native side's view of engines: creating, destroying and copying
    with one. -/
def Effect.touchesEngine : Effect → Bool
  | .call (.engineCreate _) | .call (.engineDestroy _) | .call (.copy _ _) => true
  | _ => false

section Trace

variable {h : EngineHandle} {t : List Effect}

@[simp] theorem engineLive_nil : EngineLive h [] = false := rfl

@[simp] theorem engineLive_append (u : List Effect) :
    EngineLive h (t ++ u) = u.foldl (liveStep h) (EngineLive h t) :=
  List.foldl_append ..

@[simp] theorem createCount_append (u : List Effect) :
    createCount h (t ++ u) = createCount h t + createCount h u :=
  List.count_append ..

@[simp] theorem destroyCount_append (u : List Effect) :
    destroyCount h (t ++ u) = destroyCount h t + destroyCount h u :=
  List.count_append ..

@[simp] theorem createCount_singleton (e : Effect) :
    createCount h [e] = if e = .call (.engineCreate h) then 1 else 0 :=
  List.count_singleton' ..

@[simp] theorem destroyCount_singleton (e : Effect) :
    destroyCount h [e] = if e = .call (.engineDestroy h) then 1 else 0 :=
  List.count_singleton' ..

theorem liveStep_of_not_touchesEngine {live : Bool} {e : Effect}
    (other : e.touchesEngine = false) : liveStep h live e = live := by
  unfold liveStep
  split <;> simp_all [Effect.touchesEngine]

theorem handleUse_of_not_touchesEngine {e : Effect} (other : e.touchesEngine = false) :
    HandleUse t e := by
  unfold HandleUse
  split <;> simp_all [Effect.touchesEngine]

/-- Effects that do not touch engines change no handle's liveness or counts. -/
theorem engine_view_of_not_touchesEngine {u : List Effect}
    (other : ∀ e ∈ u, e.touchesEngine = false) :
    EngineLive h (t ++ u) = EngineLive h t ∧ createCount h u = 0 ∧ destroyCount h u = 0 := by
  refine ⟨?_, List.count_eq_zero.2 fun mem => ?_, List.count_eq_zero.2 fun mem => ?_⟩
  · rw [engineLive_append]
    induction u generalizing t with
    | nil => rfl
    | cons e u ih =>
      rw [List.foldl_cons, liveStep_of_not_touchesEngine (other e (List.mem_cons_self e u))]
      exact ih fun x mem => other x (List.mem_cons_of_mem e mem)
  · simpa [Effect.touchesEngine] using other _ mem
  · simpa [Effect.touchesEngine] using other _ mem

theorem liveStep_eq_true {live : Bool} {e : Effect} (step : liveStep h live e = true) :
    e = .call (.engineCreate h) ∨ (live = true ∧ e ≠ .call (.engineDestroy h)) := by
  unfold liveStep at step
  split at step <;> (try split_ifs at step) <;> simp_all

/-- A live handle was returned by a create that no destroy of it has followed. -/
theorem exists_create_of_engineLive (live : EngineLive h t = true) :
    ∃ before since, t = before ++ .call (.engineCreate h) :: since ∧
      .call (.engineDestroy h) ∉ since := by
  induction t using List.reverseRecOn with
  | nil => simp at live
  | append_singleton t e ih =>
    rw [engineLive_append, List.foldl_cons, List.foldl_nil] at live
    rcases liveStep_eq_true live with rfl | ⟨earlier, other⟩
    · exact ⟨t, [], rfl, List.not_mem_nil _⟩
    · obtain ⟨before, since, rfl, fresh⟩ := ih earlier
      exact ⟨before, since ++ [e], by simp, by simp [fresh, Ne.symm other]⟩

end Trace

/-! ## Objects and operations -/

/-- The address of an object. -/
abbrev Addr := Nat

/-- The live `Engine` objects by address, and the effects on the native side so far. -/
structure Heap where
  objects : Addr → Option Engine
  effects : List Effect

/-- An operation of a client program: `Engine()` at `this`, `ferrocp_engine_create` returning
    `created`; `Engine(std::move(other))` at `this`; `this = std::move(other)`;
    `this.copy(request)`, `ferrocp_copy` doing `outcome`; the end of the object at `this`. -/
inductive Op
  | construct (this : Addr) (created : EngineHandle)
  | moveConstruct (this other : Addr)
  | moveAssign (this other : Addr)
  | copy (this : Addr) (request : CopyRequest) (outcome : CopyOutcome)
  | destruct (this : Addr)
  deriving DecidableEq, Repr

namespace Heap

/-- The start of a program: no object, no effect. -/
def empty : Heap := ⟨fun _ => none, []⟩

/-- One operation, run by the methods of `Engine`; `none` when it is undefined: an object used
    that is not alive, or one constructed where one is. A constructor that throws leaves no
    object at `this`, and the effects it made. -/
def step (w : Heap) : Op → Option Heap
  | .construct this created =>
    match w.objects this with
    | some _ => none
    | none =>
      match Engine.new created w.effects with
      | .ok made t => some ⟨Function.update w.objects this (some made), t⟩
      | .error _ t => some ⟨w.objects, t⟩
  | .moveConstruct this other =>
    match w.objects this, w.objects other with
    | none, some source =>
      let (made, moved) := Engine.moveFrom source
      some ⟨Function.update (Function.update w.objects other (some moved)) this (some made),
        w.effects⟩
    | _, _ => none
  | .moveAssign this other =>
    match w.objects this, w.objects other with
    | some self, some source =>
      -- `this != &other` (`ferrocp.hpp:255`)
      if this = other then some w
      else
        match self.moveAssign source w.effects with
        | .ok (assigned, moved) t =>
          some ⟨Function.update (Function.update w.objects this (some assigned)) other
            (some moved), t⟩
        | .error _ _ => none
    | _, _ => none
  | .copy this request outcome =>
    match w.objects this with
    | some self => some ⟨w.objects, FerroCP.effects (self.copy request outcome w.effects)⟩
    | none => none
  | .destruct this =>
    match w.objects this with
    | some self => some ⟨Function.update w.objects this none,
      FerroCP.effects (self.destroy w.effects)⟩
    | none => none

/-- The native side's contract for the next operation: a nonzero handle that
    `ferrocp_engine_create` returns is not live. -/
def Admits (w : Heap) : Op → Bool
  | .construct _ created => created = 0 || !EngineLive created w.effects
  | _ => true

/-- A client program, its operations in order; `none` once one is undefined or the native side
    breaks its contract. -/
def run (w : Heap) : List Op → Option Heap
  | [] => some w
  | op :: ops => if w.Admits op then (w.step op).bind (·.run ops) else none

/-- Put an object at `this`, or end the one there with `none`. -/
def write (w : Heap) (this : Addr) (e : Option Engine) : Heap :=
  { w with objects := Function.update w.objects this e }

/-- Record effects on the native side. -/
def record (w : Heap) (extra : List Effect) : Heap :=
  { w with effects := w.effects ++ extra }

/-- Some live object holds `h`. -/
def Holds (w : Heap) (h : EngineHandle) : Prop :=
  ∃ a, w.objects a = some ⟨h⟩

/-- No two objects hold the same nonzero handle. -/
def Unique (objects : Addr → Option Engine) : Prop :=
  ∀ a b h, h ≠ 0 → objects a = some ⟨h⟩ → objects b = some ⟨h⟩ → a = b

/-- The ownership invariant: nonzero handles are held at most once, a handle is live exactly
    while an object holds it, it has been created once more than destroyed while live and as
    often otherwise, and every handle passed to the native side so far was allowed. -/
structure Inv (w : Heap) : Prop where
  unique : Unique w.objects
  live_iff_holds : ∀ h, h ≠ 0 → (EngineLive h w.effects = true ↔ w.Holds h)
  balanced : ∀ h, h ≠ 0 →
    createCount h w.effects = destroyCount h w.effects + (EngineLive h w.effects).toNat
  uses : Always HandleUse w.effects

section Frame

variable (w : Heap) (this : Addr) (e : Option Engine) (extra : List Effect)

@[simp] theorem write_objects : (w.write this e).objects = Function.update w.objects this e := rfl

@[simp] theorem write_effects : (w.write this e).effects = w.effects := rfl

@[simp] theorem record_objects : (w.record extra).objects = w.objects := rfl

@[simp] theorem record_effects : (w.record extra).effects = w.effects ++ extra := rfl

@[simp] theorem write_write (e' : Option Engine) :
    (w.write this e).write this e' = w.write this e' := by
  simp only [write, Function.update_idem]

theorem write_comm {other : Addr} (distinct : this ≠ other) (e' : Option Engine) :
    (w.write this e).write other e' = (w.write other e').write this e := by
  simp only [write, Function.update_comm distinct]

end Frame

theorem holds_write {w : Heap} {this : Addr} {e : Option Engine} {h : EngineHandle} :
    (w.write this e).Holds h ↔
      e = some ⟨h⟩ ∨ ∃ a, a ≠ this ∧ w.objects a = some ⟨h⟩ := by
  constructor
  · rintro ⟨a, held⟩
    by_cases here : a = this
    · subst here
      exact .inl (by simpa using held)
    · exact .inr ⟨a, here, by simpa [here] using held⟩
  · rintro (rfl | ⟨a, elsewhere, held⟩)
    · exact ⟨this, by simp⟩
    · exact ⟨a, by simp [elsewhere, held]⟩

theorem Unique.update {objects : Addr → Option Engine} (unique : Unique objects) {this : Addr}
    {e : Option Engine}
    (fresh : ∀ a h, h ≠ 0 → e = some ⟨h⟩ → a ≠ this → objects a ≠ some ⟨h⟩) :
    Unique (Function.update objects this e) := by
  intro a b h nonzero held₁ held₂
  by_cases at₁ : a = this <;> by_cases at₂ : b = this <;>
    simp only [Function.update_apply, at₁, at₂, if_true, if_false] at held₁ held₂
  · exact at₁.trans at₂.symm
  · exact absurd held₂ (fresh b h nonzero held₁ at₂)
  · exact absurd held₁ (fresh a h nonzero held₂ at₁)
  · exact unique a b h nonzero held₁ held₂

theorem holds_iff_elsewhere {w : Heap} {this : Addr} {h : EngineHandle}
    (other : w.objects this ≠ some ⟨h⟩) :
    (∃ a, a ≠ this ∧ w.objects a = some ⟨h⟩) ↔ w.Holds h := by
  constructor
  · rintro ⟨a, -, held⟩
    exact ⟨a, held⟩
  · rintro ⟨a, held⟩
    exact ⟨a, fun here => other (here ▸ held), held⟩

theorem holds_transfer {w : Heap} {a b : Addr} {e : Engine} {h : EngineHandle}
    (held : w.objects a = some e) (vacant : w.objects b = none ∨ w.objects b = some ⟨0⟩)
    (nonzero : h ≠ 0) :
    ((w.write a (some ⟨0⟩)).write b (some e)).Holds h ↔ w.Holds h := by
  have notAtB : w.objects b ≠ some ⟨h⟩ := by
    rcases vacant with vacant | vacant <;> simp [vacant, Ne.symm nonzero]
  rw [holds_write]
  constructor
  · rintro (made | ⟨x, -, moved⟩)
    · exact ⟨a, held.trans made⟩
    · by_cases here : x = a
      · simp [here, Ne.symm nonzero] at moved
      · exact ⟨x, by simpa [here] using moved⟩
  · rintro ⟨x, held'⟩
    by_cases here : x = a
    · subst here
      exact .inl (held.symm.trans held')
    · exact .inr ⟨x, fun atB => notAtB (atB ▸ held'), by simp [here, held']⟩

/-- What one operation appends to the native trace: a create, the destroy of a nonzero handle
    or nothing, or what `Engine::copy` does. -/
theorem step_effects {w w' : Heap} {op : Op} (stepped : w.step op = some w') :
    ∃ extra, w'.effects = w.effects ++ extra ∧
      ((∃ created, extra = [.call (.engineCreate created)]) ∨
        (∃ h, extra = Engine.release h) ∨
        ∃ h request, extra = [.call (.copy h request), .call .freeResult] ∨
          extra = [.call (.copy h request), .read .result, .call .freeResult]) := by
  have nothing : w.effects = w.effects ++ Engine.release 0 := by simp [Engine.release]
  cases op with
  | construct this created =>
    simp only [Heap.step] at stepped
    split at stepped
    · cases stepped
    · rw [Engine.new_run] at stepped
      refine ⟨_, ?_, .inl ⟨created, rfl⟩⟩
      split_ifs at stepped <;> simp only [Option.some.injEq] at stepped <;> subst stepped <;> rfl
  | moveConstruct this other =>
    simp only [Heap.step] at stepped
    split at stepped
    · cases stepped
      exact ⟨_, nothing, .inr (.inl ⟨0, rfl⟩)⟩
    · cases stepped
  | moveAssign this other =>
    simp only [Heap.step] at stepped
    split at stepped
    · rename_i self source _ _
      split_ifs at stepped
      · cases stepped
        exact ⟨_, nothing, .inr (.inl ⟨0, rfl⟩)⟩
      · rw [Engine.moveAssign_run] at stepped
        cases stepped
        exact ⟨_, rfl, .inr (.inl ⟨self.handle, rfl⟩)⟩
    · cases stepped
  | copy this request outcome =>
    simp only [Heap.step] at stepped
    split at stepped
    · cases stepped
      rw [Engine.copy_run]
      split_ifs
      · exact ⟨_, rfl, .inr (.inr ⟨_, _, .inr rfl⟩)⟩
      · exact ⟨_, rfl, .inr (.inr ⟨_, _, .inl rfl⟩)⟩
    · cases stepped
  | destruct this =>
    simp only [Heap.step] at stepped
    split at stepped
    · rename_i self _
      cases stepped
      rw [Engine.destroy_run]
      exact ⟨_, rfl, .inr (.inl ⟨self.handle, rfl⟩)⟩
    · cases stepped

namespace Inv

variable {w : Heap} (inv : w.Inv)
include inv

theorem live_of_objects {a : Addr} {h : EngineHandle} (nonzero : h ≠ 0)
    (held : w.objects a = some ⟨h⟩) : EngineLive h w.effects = true :=
  (inv.live_iff_holds h nonzero).2 ⟨a, held⟩

/-- `ferrocp_engine_create` returned `c` and the object at the vacant `this` takes it. -/
theorem acquire {this : Addr} {c : EngineHandle} (vacant : w.objects this = none)
    (fresh : EngineLive c w.effects = false) :
    ((w.record [.call (.engineCreate c)]).write this (some ⟨c⟩)).Inv where
  unique := inv.unique.update fun a h nonzero' made _ held => by
    cases made
    simp [inv.live_of_objects nonzero' held] at fresh
  live_iff_holds h nonzero' := by
    rw [holds_write, record_objects, holds_iff_elsewhere (by simp [vacant]),
      ← inv.live_iff_holds h nonzero']
    by_cases same : c = h <;> simp [liveStep, same]
  balanced h nonzero' := by
    have before := inv.balanced h nonzero'
    by_cases same : c = h
    · subst same
      simp only [fresh, Bool.toNat_false] at before
      simp [liveStep, before]
    · simp [liveStep, same, before]
  uses := (always_append_singleton _).2 ⟨inv.uses, trivial⟩

/-- The object at `this` gives its handle up, destroying it unless it is `0`, and keeps `0`. -/
theorem release {this : Addr} {k : EngineHandle} (held : w.objects this = some ⟨k⟩) :
    ((w.record (Engine.release k)).write this (some ⟨0⟩)).Inv where
  unique := inv.unique.update fun _ _ nonzero' made _ => by cases made; exact absurd rfl nonzero'
  live_iff_holds h nonzero' := by
    rw [holds_write, record_objects]
    by_cases same : k = h
    · subst same
      have alone : ∀ a, a ≠ this → w.objects a ≠ some ⟨k⟩ :=
        fun a elsewhere held' => elsewhere (inv.unique a this k nonzero' held' held)
      simpa [Engine.release, nonzero', liveStep, Ne.symm nonzero'] using alone
    · rw [holds_iff_elsewhere (by simp [held, same]), ← inv.live_iff_holds h nonzero']
      by_cases zero : k = 0 <;> simp [Engine.release, liveStep, same, zero, Ne.symm nonzero']
  balanced h nonzero' := by
    have before := inv.balanced h nonzero'
    by_cases same : k = h
    · subst same
      simp only [inv.live_of_objects nonzero' held, Bool.toNat_true] at before
      simp [Engine.release, nonzero', liveStep, before]
    · by_cases zero : k = 0 <;> simp [Engine.release, zero, liveStep, same, before]
  uses := by
    by_cases zero : k = 0
    · simpa [Engine.release, zero] using inv.uses
    · have allowed : HandleUse w.effects (.call (.engineDestroy k)) :=
        ⟨zero, inv.live_of_objects zero held⟩
      simpa [Engine.release, zero] using (always_append_singleton _).2 ⟨inv.uses, allowed⟩

/-- The handle of the object at `a` moves to the object at `b`, vacant or holding `0`, and `a`
    keeps `0`. -/
theorem transfer {a b : Addr} {e : Engine} (distinct : a ≠ b)
    (held : w.objects a = some e) (vacant : w.objects b = none ∨ w.objects b = some ⟨0⟩) :
    ((w.write a (some ⟨0⟩)).write b (some e)).Inv where
  unique := by
    refine (inv.unique.update fun _ _ nonzero' made _ => ?_).update
      fun x h nonzero' made atB moved => ?_
    · cases made
      exact absurd rfl nonzero'
    · cases made
      by_cases here : x = a
      · subst here
        simp [Ne.symm nonzero'] at moved
      · simp only [write_objects, Function.update_apply, here, if_false] at moved
        exact here (inv.unique x a h nonzero' moved held)
  live_iff_holds h nonzero' := by
    rw [holds_transfer held vacant nonzero']
    exact inv.live_iff_holds h nonzero'
  balanced := inv.balanced
  uses := inv.uses

/-- The object at `this`, holding `0`, ends. -/
theorem remove {this : Addr} (held : w.objects this = some ⟨0⟩) : (w.write this none).Inv where
  unique := inv.unique.update fun _ _ _ made => by cases made
  live_iff_holds h nonzero' := by
    rw [holds_write, holds_iff_elsewhere (by simp [held, Ne.symm nonzero'])]
    simpa using inv.live_iff_holds h nonzero'
  balanced := inv.balanced
  uses := inv.uses

/-- Effects that change no nonzero handle's state, and pass the native side only allowed
    handles. -/
theorem record_neutral {extra : List Effect}
    (neutral : ∀ h, h ≠ 0 → extra.foldl (liveStep h) (EngineLive h w.effects) =
      EngineLive h w.effects ∧ createCount h extra = 0 ∧ destroyCount h extra = 0)
    (allowed : Always HandleUse (w.effects ++ extra)) : (w.record extra).Inv where
  unique := inv.unique
  live_iff_holds h nonzero := by
    simpa [(neutral h nonzero).1] using inv.live_iff_holds h nonzero
  balanced h nonzero := by
    simpa [(neutral h nonzero).1, (neutral h nonzero).2] using inv.balanced h nonzero
  uses := allowed

/-- Two distinct objects share no handle but `0`. -/
theorem shared_eq_zero {a b : Addr} {h : EngineHandle} (distinct : a ≠ b)
    (held₁ : w.objects a = some ⟨h⟩) (held₂ : w.objects b = some ⟨h⟩) : h = 0 := by
  by_contra nonzero
  exact distinct (inv.unique a b h nonzero held₁ held₂)

/-- Once no object is left, every nonzero handle has been destroyed as often as created. -/
theorem destroyCount_eq_of_gone (gone : ∀ a, w.objects a = none) {h : EngineHandle}
    (nonzero : h ≠ 0) : destroyCount h w.effects = createCount h w.effects := by
  have dead : EngineLive h w.effects = false := by
    rw [Bool.eq_false_iff]
    intro live
    obtain ⟨a, held⟩ := (inv.live_iff_holds h nonzero).1 live
    simp [gone a] at held
  simpa [dead] using (inv.balanced h nonzero).symm

/-- Effects that touch no engine keep the invariant. -/
theorem record_other {extra : List Effect} (other : ∀ e ∈ extra, e.touchesEngine = false) :
    (w.record extra).Inv := by
  refine inv.record_neutral (fun h _ => ?_)
    ((always_append _).2 ⟨inv.uses, fun pre e post split => ?_⟩)
  · have view := @engine_view_of_not_touchesEngine h w.effects extra other
    rwa [engineLive_append] at view
  · exact handleUse_of_not_touchesEngine (other e (by simp [split]))

/-- Each operation keeps the invariant. -/
theorem step {op : Op} {w' : Heap} (admitted : w.Admits op = true)
    (stepped : w.step op = some w') : w'.Inv := by
  cases op with
  | construct this created =>
    simp only [Heap.step] at stepped
    split at stepped
    · cases stepped
    · rename_i vacant
      rw [Engine.new_run] at stepped
      by_cases zero : created = 0
      · simp only [zero, if_true, Option.some.injEq] at stepped
        subst stepped zero
        exact inv.record_neutral (fun h nonzero => by simp [liveStep, Ne.symm nonzero])
          ((always_append_singleton _).2 ⟨inv.uses, trivial⟩)
      · simp only [zero, if_false, Option.some.injEq] at stepped
        subst stepped
        exact inv.acquire vacant (by simpa [Admits, zero] using admitted)
  | moveConstruct this other =>
    simp only [Heap.step] at stepped
    split at stepped
    · rename_i source vacant held
      cases stepped
      have distinct : other ≠ this := fun same => by simp [same, vacant] at held
      exact inv.transfer distinct held (.inl vacant)
    · cases stepped
  | moveAssign this other =>
    simp only [Heap.step] at stepped
    split at stepped
    · rename_i self source heldThis heldOther
      split_ifs at stepped with same
      · cases stepped
        exact inv
      · rw [Engine.moveAssign_run] at stepped
        cases stepped
        have moved := (inv.release heldThis).transfer (Ne.symm same)
          (show (((w.record (Engine.release self.handle)).write this (some ⟨0⟩)).objects other =
            some source) by simp [Ne.symm same, heldOther]) (.inr (by simp))
        rwa [write_comm _ _ _ (Ne.symm same), write_write] at moved
    · cases stepped
  | copy this request outcome =>
    simp only [Heap.step] at stepped
    split at stepped
    · rename_i self held
      cases stepped
      have allowed : HandleUse w.effects (.call (.copy self.handle request.toC)) :=
        (em (self.handle = 0)).imp id (inv.live_of_objects · held)
      rw [Engine.copy_run]
      split_ifs <;>
        exact inv.record_neutral (fun h _ => by simp [liveStep, createCount, destroyCount])
          (always_append_cons inv.uses allowed (by simp [HandleUse]))
    · cases stepped
  | destruct this =>
    simp only [Heap.step] at stepped
    split at stepped
    · rename_i self held
      cases stepped
      have removed := (inv.release held).remove
        (show (((w.record (Engine.release self.handle)).write this (some ⟨0⟩)).objects this =
          some ⟨0⟩) by simp)
      rw [Engine.destroy_run]
      rwa [write_write] at removed
    · cases stepped

/-- A whole run keeps the invariant. -/
theorem run {ops : List Op} {w' : Heap} (ran : w.run ops = some w') : w'.Inv := by
  induction ops generalizing w with
  | nil =>
    cases ran
    exact inv
  | cons op ops ih =>
    simp only [Heap.run] at ran
    split_ifs at ran with admitted
    obtain ⟨next, stepped, rest⟩ := Option.bind_eq_some.mp ran
    exact ih (inv.step admitted stepped) rest

end Inv

theorem inv_empty : empty.Inv where
  unique _ _ _ _ held := by simp [empty] at held
  live_iff_holds _ _ := by simp [empty, Holds]
  balanced _ _ := by simp [empty, createCount, destroyCount]
  uses := always_nil _

end Heap

/-- In every state a client program reaches, no two live objects hold the same nonzero handle;
    each `ferrocp_engine_destroy` got a nonzero handle that `ferrocp_engine_create` returned with
    no destroy of it since; and once no object is left, every nonzero handle has been destroyed
    as often as it was created. -/
theorem engine_handle_ownership {ops : List Op} {w : Heap} (ran : Heap.empty.run ops = some w) :
    (∀ a b h, a ≠ b → w.objects a = some ⟨h⟩ → w.objects b = some ⟨h⟩ → h = 0) ∧
    (∀ pre h post, w.effects = pre ++ .call (.engineDestroy h) :: post →
      h ≠ 0 ∧ ∃ before since, pre = before ++ .call (.engineCreate h) :: since ∧
        .call (.engineDestroy h) ∉ since) ∧
    ((∀ a, w.objects a = none) →
      ∀ h, h ≠ 0 → destroyCount h w.effects = createCount h w.effects) := by
  have inv := Heap.inv_empty.run ran
  refine ⟨fun a b h distinct held₁ held₂ => ?_, fun pre h post split => ?_,
    fun gone h nonzero => ?_⟩
  · by_contra nonzero
    exact distinct (inv.unique a b h nonzero held₁ held₂)
  · obtain ⟨nonzero, live⟩ := inv.uses pre _ post split
    exact ⟨nonzero, exists_create_of_engineLive live⟩
  · have dead : EngineLive h w.effects = false := by
      rw [Bool.eq_false_iff]
      intro live
      obtain ⟨a, held⟩ := (inv.live_iff_holds h nonzero).1 live
      simp [gone a] at held
    simpa [dead] using (inv.balanced h nonzero).symm

/-- No engine is used after it is destroyed: in every state a client program reaches, each
    `ferrocp_copy` made through an `Engine` got `0`, from a moved-from object, or a handle that
    `ferrocp_engine_create` returned with no destroy of it since. -/
theorem engine_copy_handle_live {ops : List Op} {w : Heap} (ran : Heap.empty.run ops = some w) :
    ∀ pre h request post, w.effects = pre ++ .call (.copy h request) :: post →
      h = 0 ∨ ∃ before since, pre = before ++ .call (.engineCreate h) :: since ∧
        .call (.engineDestroy h) ∉ since := by
  intro pre h request post split
  exact (Heap.inv_empty.run ran |>.uses pre _ post split).imp_right exists_create_of_engineLive

/-- An engine used, moved from, and the moved-from object used. -/
def copyProgram : List Op :=
  [.construct 0 7, .copy 0 (.new "a" "b") ⟨0, ⟨none⟩⟩, .moveConstruct 1 0,
    .copy 0 (.new "a" "b") ⟨1, ⟨none⟩⟩, .destruct 1, .destruct 0]

/-- The state `copyProgram` ends in. -/
def copyProgramEnd : Heap :=
  (Heap.empty.run copyProgram).get (by decide)

theorem engine_copy_handle_live_program :
    copyProgramEnd.effects = [.call (.engineCreate 7)] ++
        .call (.copy 7 (CopyRequest.new "a" "b").toC) :: copyProgramEnd.effects.drop 2 ∧
      ((7 : EngineHandle) = 0 ∨ ∃ before since, [Effect.call (.engineCreate 7)] =
        before ++ .call (.engineCreate 7) :: since ∧ .call (.engineDestroy 7) ∉ since) :=
  have split : copyProgramEnd.effects = [.call (.engineCreate 7)] ++
      .call (.copy 7 (CopyRequest.new "a" "b").toC) :: copyProgramEnd.effects.drop 2 := by decide
  ⟨split, engine_copy_handle_live (Option.some_get _).symm _ _ _ _ split⟩

/-- Two engines, one moved into the other's place, and both objects destroyed. -/
def ownershipProgram : List Op :=
  [.construct 0 7, .moveConstruct 1 0, .construct 2 9, .moveAssign 2 1, .destruct 1, .destruct 0,
    .destruct 2]

/-- The state `ownershipProgram` ends in. -/
def ownershipProgramEnd : Heap :=
  (Heap.empty.run ownershipProgram).get (by decide)

theorem engine_handle_ownership_program :
    (∀ a b h, a ≠ b → ownershipProgramEnd.objects a = some ⟨h⟩ →
      ownershipProgramEnd.objects b = some ⟨h⟩ → h = 0) ∧
    (∀ pre h post, ownershipProgramEnd.effects = pre ++ .call (.engineDestroy h) :: post →
      h ≠ 0 ∧ ∃ before since, pre = before ++ .call (.engineCreate h) :: since ∧
        .call (.engineDestroy h) ∉ since) ∧
    ((∀ a, ownershipProgramEnd.objects a = none) →
      ∀ h, h ≠ 0 → destroyCount h ownershipProgramEnd.effects =
        createCount h ownershipProgramEnd.effects) :=
  engine_handle_ownership (Option.some_get _).symm

end FerroCP
