import FerroCP.Exception

/-!
# `ferrocp::Library`: initialisation and cleanup

`ferrocp.hpp:202-223`. A `Library` object has no member: its constructor calls `ferrocp_init`
and throws when that fails, its destructor calls `ferrocp_cleanup`, and it can be neither copied
nor moved. As nothing tells two objects apart, a program's state is the number of live objects.

Over any sequence of constructions and destructions, each `ferrocp_cleanup` follows more
successful `ferrocp_init` calls than cleanups, and once no object is left there have been as many
cleanups as successful initialisations.

The destructor calls `ferrocp_cleanup` whatever other objects are alive, while `ferrocp.h:176-181`
asks for the call when the program is done using FerroCP: with two objects, the first destroyed
cleans up while the second still stands. The results here are stated in counts of calls, which
hold either way; whether the native library is still usable after such a cleanup depends on its
counting nested initialisations, which `ferrocp.h` does not say.
-/

namespace FerroCP

namespace Library

/-- `Library()` (`ferrocp.hpp:204-208`), `ferrocp_init` returning `returned`. -/
def new (returned : Int) : Cpp Unit := do
  emit (.call (.init returned))
  if returned ≠ 0 then
    throw (.ferrocp (Exception.new "Failed to initialize FerroCP library" ferrocpErrorGeneric))

/-- `~Library()` (`ferrocp.hpp:210-212`). -/
def destroy : Cpp Unit :=
  emit (.call .cleanup)

/-- `version()` (`ferrocp.hpp:220-222`): the static string `ferrocp_version` returns, copied and
    not freed. -/
def version (returned : String) : Cpp String := do
  emit (.call .version)
  return returned

theorem new_run (returned : Int) (t : List Effect) :
    new returned t =
      if returned ≠ 0 then
        .error (.ferrocp (Exception.new "Failed to initialize FerroCP library" ferrocpErrorGeneric))
          (t ++ [.call (.init returned)])
      else .ok () (t ++ [.call (.init returned)]) := by
  by_cases failed : returned = 0 <;> simp [new, failed]

end Library

/-- The live `Library` objects, and the effects on the native side so far. -/
structure Libraries where
  live : Nat
  effects : List Effect

/-- Constructing a `Library`, `ferrocp_init` returning `returned`, or destroying one. -/
inductive LibraryOp
  | construct (returned : Int)
  | destruct
  deriving DecidableEq, Repr

/-- How often `ferrocp_init` succeeded. -/
def initCount (effects : List Effect) : Nat :=
  effects.count (.call (.init 0))

/-- How often `ferrocp_cleanup` was called. -/
def cleanupCount (effects : List Effect) : Nat :=
  effects.count (.call .cleanup)

/-- The effects that make up the native side's view of the library: `ferrocp_init` and
    `ferrocp_cleanup`. -/
def Effect.touchesLibrary : Effect → Bool
  | .call (.init _) | .call .cleanup => true
  | _ => false

@[simp] theorem initCount_append (t u : List Effect) :
    initCount (t ++ u) = initCount t + initCount u :=
  List.count_append ..

@[simp] theorem cleanupCount_append (t u : List Effect) :
    cleanupCount (t ++ u) = cleanupCount t + cleanupCount u :=
  List.count_append ..

theorem library_counts_of_not_touchesLibrary (u : List Effect)
    (other : ∀ e ∈ u, e.touchesLibrary = false) : initCount u = 0 ∧ cleanupCount u = 0 :=
  ⟨List.count_eq_zero.2 fun mem => by simpa [Effect.touchesLibrary] using other _ mem,
    List.count_eq_zero.2 fun mem => by simpa [Effect.touchesLibrary] using other _ mem⟩

namespace Libraries

/-- The start of a program. -/
def empty : Libraries := ⟨0, []⟩

/-- One operation; `none` when a `Library` is destroyed while none is alive. A constructor that
    throws leaves no object, and the call it made. -/
def step (l : Libraries) : LibraryOp → Option Libraries
  | .construct returned =>
    match Library.new returned l.effects with
    | .ok () t => some ⟨l.live + 1, t⟩
    | .error _ t => some ⟨l.live, t⟩
  | .destruct =>
    if l.live = 0 then none else some ⟨l.live - 1, FerroCP.effects (Library.destroy l.effects)⟩

/-- A program's operations in order. -/
def run (l : Libraries) : List LibraryOp → Option Libraries
  | [] => some l
  | op :: ops => (l.step op).bind (·.run ops)

/-- Every successful initialisation not yet cleaned up belongs to a live object, and every
    cleanup so far followed more successful initialisations than cleanups. -/
structure Inv (l : Libraries) : Prop where
  balanced : initCount l.effects = cleanupCount l.effects + l.live
  matched : Always (fun pre e => e = .call .cleanup → cleanupCount pre < initCount pre) l.effects

theorem Inv.step {l l' : Libraries} {op : LibraryOp} (inv : l.Inv) (stepped : l.step op = some l') :
    l'.Inv := by
  have balanced := inv.balanced
  simp only [initCount, cleanupCount] at balanced
  cases op with
  | construct returned =>
    simp only [Libraries.step, Library.new_run, ne_eq, ite_not] at stepped
    split_ifs at stepped with succeeded <;> cases stepped <;>
      refine ⟨?_, (always_append_singleton _).2 ⟨inv.matched, by simp⟩⟩ <;>
      simp [initCount, cleanupCount, List.count_singleton', succeeded] <;> omega
  | destruct =>
    simp only [Libraries.step] at stepped
    split_ifs at stepped with none_
    cases stepped
    refine ⟨?_, (always_append_singleton _).2 ⟨inv.matched, fun _ => ?_⟩⟩
    · simp [Library.destroy, initCount, cleanupCount, List.count_singleton']
      omega
    · simp only [initCount, cleanupCount]
      omega

/-- Effects other than `ferrocp_init` and `ferrocp_cleanup` keep the invariant. -/
theorem Inv.record_other {l : Libraries} {extra : List Effect} (inv : l.Inv)
    (other : ∀ e ∈ extra, e.touchesLibrary = false) :
    (⟨l.live, l.effects ++ extra⟩ : Libraries).Inv where
  balanced := by
    have counts := library_counts_of_not_touchesLibrary extra other
    simpa [counts.1, counts.2] using inv.balanced
  matched := (always_append _).2 ⟨inv.matched, fun pre e post split cleanup =>
    absurd (other e (by simp [split])) (by simp [cleanup, Effect.touchesLibrary])⟩

/-- What one operation appends to the native trace: `ferrocp_init` or `ferrocp_cleanup`. -/
theorem step_effects {l l' : Libraries} {op : LibraryOp} (stepped : l.step op = some l') :
    ∃ extra, l'.effects = l.effects ++ extra ∧
      ((∃ returned, extra = [.call (.init returned)]) ∨ extra = [.call .cleanup]) := by
  cases op with
  | construct returned =>
    simp only [Libraries.step, Library.new_run] at stepped
    refine ⟨_, ?_, .inl ⟨returned, rfl⟩⟩
    split_ifs at stepped <;> simp only [Option.some.injEq] at stepped <;> subst stepped <;> rfl
  | destruct =>
    simp only [Libraries.step] at stepped
    split_ifs at stepped
    cases stepped
    exact ⟨_, rfl, .inr rfl⟩

theorem Inv.run {l l' : Libraries} {ops : List LibraryOp} (inv : l.Inv)
    (ran : l.run ops = some l') : l'.Inv := by
  induction ops generalizing l with
  | nil =>
    cases ran
    exact inv
  | cons op ops ih =>
    obtain ⟨next, stepped, rest⟩ := Option.bind_eq_some.mp ran
    exact ih (inv.step stepped) rest

theorem inv_empty : empty.Inv :=
  ⟨rfl, always_nil _⟩

end Libraries

/-- Over any sequence of `Library` constructions and destructions, each `ferrocp_cleanup` follows
    more successful `ferrocp_init` calls than cleanups, and once no `Library` is left every
    successful initialisation has been cleaned up once. -/
theorem library_cleanup_matches_init {ops : List LibraryOp} {l : Libraries}
    (ran : Libraries.empty.run ops = some l) :
    (∀ pre post, l.effects = pre ++ .call .cleanup :: post → cleanupCount pre < initCount pre) ∧
    (l.live = 0 → cleanupCount l.effects = initCount l.effects) := by
  have inv := Libraries.inv_empty.run ran
  exact ⟨fun pre post split => inv.matched pre _ post split rfl,
    fun none_ => by simp [inv.balanced, none_]⟩

/-- Two libraries, one whose initialisation fails. -/
def libraryProgram : List LibraryOp :=
  [.construct 0, .construct 1, .construct 0, .destruct, .destruct]

theorem library_cleanup_matches_init_program :
    (∀ pre post, ((Libraries.empty.run libraryProgram).get (by decide)).effects =
        pre ++ .call .cleanup :: post → cleanupCount pre < initCount pre) ∧
      (((Libraries.empty.run libraryProgram).get (by decide)).live = 0 →
        cleanupCount ((Libraries.empty.run libraryProgram).get (by decide)).effects =
          initCount ((Libraries.empty.run libraryProgram).get (by decide)).effects) :=
  library_cleanup_matches_init (Option.some_get _).symm

end FerroCP
