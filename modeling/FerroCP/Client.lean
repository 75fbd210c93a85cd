import FerroCP.Library
import FerroCP.Ownership
import FerroCP.Utility

/-!
# Client programs

A client program uses the whole wrapper at once: `Engine` objects (`FerroCP.Ownership`),
`Library` objects and `Library::version` (`FerroCP.Library`), `get_device_info` and the path
utilities, in any order, on one native trace. `Client.step` runs one call as the wrapper does, and
`Client.run` a sequence of them under the contract of `ferrocp_engine_create` that `Heap.run`
assumes. An exception a call throws leaves the effects it made, and the program goes on.

`Client.Inv` holds in every state a run reaches; `Client.step_cases` says once what each call
appends to the trace. From them:

* `client_engines_and_libraries`: the guarantees of `Engine` and `Library` objects hold however
  their calls interleave with each other and with the free functions.
* `client_native_memory_blocks`: restricted to one kind of native memory, the trace is a run of
  whole blocks, each the call that hands an object over, then at most a read and one release. No
  object is released twice, released before it is handed over, or read after its release.
* `client_calls_after_init`: when a `Library` is alive around every other call, each native call
  but `ferrocp_init` comes after more successful initialisations than cleanups (`ferrocp.h:169`).

Whether the native library counts nested initialisations is not said by `ferrocp.h`; the last
result is stated in those counts, not in terms of the native library's state.
-/

namespace FerroCP

/-- A call of a client program: an operation on `Engine` objects, the construction or end of a
    `Library`, `Library::version` (`ferrocp.hpp:220-222`), or a free function
    (`ferrocp.hpp:329-396`), each with what the native side returns. -/
inductive ClientOp
  | engine (op : Op)
  | library (op : LibraryOp)
  | version (returned : String)
  | getDeviceInfo (path : String) (outcome : DeviceInfoOutcome)
  | pathExists (path : String) (returned : Int)
  | isDirectory (path : String) (returned : Int)
  | isFile (path : String) (returned : Int)
  | getFileSize (path : String) (returned : UInt64)
  | joinPaths (path1 path2 : String) (returned : Option String)
  | normalizePath (path : String) (returned : Option String)
  deriving Repr

/-- Whether `op` constructs or ends a `Library`. -/
def ClientOp.isLibrary : ClientOp → Bool
  | .library _ => true
  | _ => false

/-- The live `Engine` objects by address, the number of live `Library` objects, and the effects
    on the native side so far. -/
structure Client where
  objects : Addr → Option Engine
  libraries : Nat
  effects : List Effect

namespace Client

/-- The start of a program. -/
def empty : Client := ⟨fun _ => none, 0, []⟩

/-- The `Engine` objects and the trace. -/
def heap (c : Client) : Heap := ⟨c.objects, c.effects⟩

/-- The `Library` objects and the trace. -/
def libs (c : Client) : Libraries := ⟨c.libraries, c.effects⟩

/-- A call of a free function, with the effects it made whether it returned or threw. -/
def call {α : Type} (c : Client) (f : Cpp α) : Client :=
  { c with effects := FerroCP.effects (f c.effects) }

/-- One call; `none` when it is undefined: an `Engine` or `Library` operation that is, or
    `version` with no `Library` object to call it on. -/
def step (c : Client) : ClientOp → Option Client
  | .engine op => (c.heap.step op).map fun w => { c with objects := w.objects, effects := w.effects }
  | .library op => (c.libs.step op).map fun l => { c with libraries := l.live, effects := l.effects }
  | .version returned =>
    if c.libraries = 0 then none else some (c.call (Library.version returned))
  | .getDeviceInfo path outcome => some (c.call (getDeviceInfo path outcome))
  | .pathExists path returned => some (c.call (pathExists path returned))
  | .isDirectory path returned => some (c.call (isDirectory path returned))
  | .isFile path returned => some (c.call (isFile path returned))
  | .getFileSize path returned => some (c.call (getFileSize path returned))
  | .joinPaths path1 path2 returned => some (c.call (joinPaths path1 path2 returned))
  | .normalizePath path returned => some (c.call (normalizePath path returned))

/-- The native side's contract for the next call, that of `Heap.Admits`. -/
def Admits (c : Client) : ClientOp → Bool
  | .engine op => c.heap.Admits op
  | _ => true

/-- A client program, its calls in order; `none` once one is undefined or the native side breaks
    its contract. -/
def run (c : Client) : List ClientOp → Option Client
  | [] => some c
  | op :: ops => if c.Admits op then (c.step op).bind (·.run ops) else none

end Client

/-! ## Native memory in blocks -/

/-- The call that releases a native object (`ferrocp.h:220`, `262-285`, `355-382`). -/
def NativeObject.free : NativeObject → NativeCall
  | .result => .freeResult
  | .deviceInfo => .freeDeviceInfo
  | .string => .freeString

/-- Whether `e` concerns native memory of kind `o`: the call that hands such an object to the
    wrapper, a read of one, or a release. -/
def Effect.concerns (o : NativeObject) : Effect → Bool
  | .call (.copy _ _) => o = .result
  | .call (.getDeviceInfo _) => o = .deviceInfo
  | .call (.joinPaths _ _) | .call (.normalizePath _) => o = .string
  | .call c => c = o.free
  | .read o' => o' = o

/-- What one wrapper call does with native memory of kind `o`: `ferrocp_copy`, then perhaps a
    read of the message and one `ferrocp_free_result` (`ferrocp.hpp:280-289`);
    `ferrocp_get_device_info`, then on success a read and, unless `std::stoi` throws, one
    `ferrocp_free_device_info` (`ferrocp.hpp:330-339`); `ferrocp_join_paths` or
    `ferrocp_normalize_path`, then for a string a read and one `ferrocp_free_string`
    (`ferrocp.hpp:373-396`). -/
def Block : NativeObject → List Effect → Prop
  | .result, b => ∃ handle request, b = [.call (.copy handle request), .call .freeResult] ∨
      b = [.call (.copy handle request), .read .result, .call .freeResult]
  | .deviceInfo, b => ∃ path, b = [.call (.getDeviceInfo path)] ∨
      b = [.call (.getDeviceInfo path), .read .deviceInfo] ∨
      b = [.call (.getDeviceInfo path), .read .deviceInfo, .call .freeDeviceInfo]
  | .string, b => ∃ call,
      ((∃ path1 path2, call = .joinPaths path1 path2) ∨ ∃ path, call = .normalizePath path) ∧
      (b = [.call call] ∨ b = [.call call, .read .string, .call .freeString])

/-- `t` is a run of blocks, each satisfying `block`. -/
inductive Blocks (block : List Effect → Prop) : List Effect → Prop
  | nil : Blocks block []
  | cons {b t : List Effect} : block b → Blocks block t → Blocks block (b ++ t)

section Blocks

variable {block : List Effect → Prop} {t u : List Effect}

theorem Blocks.append (first : Blocks block t) (second : Blocks block u) :
    Blocks block (t ++ u) := by
  induction first with
  | nil => exact second
  | cons one _ ih =>
    rw [List.append_assoc]
    exact .cons one ih

theorem Blocks.single (one : block t) : Blocks block t := by
  simpa using Blocks.cons one .nil

end Blocks

/-- Restricted to any kind, a block is a run of blocks of that kind: itself, or nothing. -/
theorem Block.blocks {o : NativeObject} {b : List Effect} (block : Block o b)
    (o' : NativeObject) : Blocks (Block o') (b.filter (·.concerns o')) := by
  cases o with
  | result =>
    obtain ⟨_, _, rfl | rfl⟩ := id block <;> cases o' <;>
      first | exact .nil | exact .single block
  | deviceInfo =>
    obtain ⟨_, rfl | rfl | rfl⟩ := id block <;> cases o' <;>
      first | exact .nil | exact .single block
  | string =>
    obtain ⟨_, ⟨_, _, rfl⟩ | ⟨_, rfl⟩, rfl | rfl⟩ := id block <;> cases o' <;>
      first | exact .nil | exact .single block

/-- Effects that concern no native memory. -/
theorem blocks_of_unconcerned {extra : List Effect}
    (unconcerned : ∀ e ∈ extra, ∀ o, e.concerns o = false) (o : NativeObject) :
    Blocks (Block o) (extra.filter (·.concerns o)) := by
  rw [List.filter_eq_nil_iff.2 fun e mem => by simp [unconcerned e mem o]]
  exact .nil

/-- What a call that is neither an `Engine` nor a `Library` operation appends: effects that
    touch no engine and no library, with native memory in whole blocks. -/
def Detached (extra : List Effect) : Prop :=
  (∀ e ∈ extra, e.touchesEngine = false ∧ e.touchesLibrary = false) ∧
    ∀ o, Blocks (Block o) (extra.filter (·.concerns o))

/-- A block of device information or of a string touches no engine or library. -/
theorem Block.detached {o : NativeObject} {b : List Effect} (block : Block o b)
    (notResult : o ≠ .result) : Detached b := by
  refine ⟨fun e mem => ?_, block.blocks⟩
  cases o with
  | result => exact absurd rfl notResult
  | deviceInfo =>
    obtain ⟨_, rfl | rfl | rfl⟩ := block <;>
      simp only [List.mem_cons, List.mem_singleton, List.not_mem_nil, or_false] at mem <;>
      rcases mem with rfl | rfl | rfl <;> exact ⟨rfl, rfl⟩
  | string =>
    obtain ⟨_, ⟨_, _, rfl⟩ | ⟨_, rfl⟩, rfl | rfl⟩ := block <;>
      simp only [List.mem_cons, List.mem_singleton, List.not_mem_nil, or_false] at mem <;>
      rcases mem with rfl | rfl | rfl <;> exact ⟨rfl, rfl⟩

/-- One call that touches no engine or library and concerns no native memory. -/
theorem detached_call {q : NativeCall} (engineFree : (Effect.call q).touchesEngine = false)
    (libraryFree : (Effect.call q).touchesLibrary = false)
    (unconcerned : ∀ o, (Effect.call q).concerns o = false) : Detached [.call q] :=
  ⟨fun e mem => by rw [List.mem_singleton.1 mem]; exact ⟨engineFree, libraryFree⟩,
    blocks_of_unconcerned fun e mem => by rw [List.mem_singleton.1 mem]; exact unconcerned⟩

/-- `f` appends the same detached effects to every trace. -/
def DetachedCall {α : Type} (f : Cpp α) : Prop :=
  ∀ t, ∃ extra, effects (f t) = t ++ extra ∧ Detached extra

theorem getDeviceInfo_detached (path : String) (outcome : DeviceInfoOutcome) :
    DetachedCall (getDeviceInfo path outcome) := by
  have detached : ∀ b, Block .deviceInfo b → Detached b :=
    fun _ block => block.detached (by decide)
  intro t
  rw [getDeviceInfo_run]
  split_ifs
  · exact ⟨_, rfl, detached _ ⟨path, .inl rfl⟩⟩
  · split
    · exact ⟨_, rfl, detached _ ⟨path, .inr (.inr rfl)⟩⟩
    · exact ⟨_, rfl, detached _ ⟨path, .inr (.inl rfl)⟩⟩

theorem ownedString_detached {call : NativeCall} (failure : String) (returned : Option String)
    (stringCall :
      (∃ path1 path2, call = .joinPaths path1 path2) ∨ ∃ path, call = .normalizePath path) :
    DetachedCall (ownedString call failure returned) := by
  have detached : ∀ b, Block .string b → Detached b := fun _ block => block.detached (by decide)
  intro t
  rw [ownedString_run]
  cases returned
  · exact ⟨_, rfl, detached _ ⟨call, stringCall, .inl rfl⟩⟩
  · exact ⟨_, rfl, detached _ ⟨call, stringCall, .inr rfl⟩⟩

theorem queryPath_detached (query : NativeCall) (returned : Int)
    (engineFree : (Effect.call query).touchesEngine = false)
    (libraryFree : (Effect.call query).touchesLibrary = false)
    (unconcerned : ∀ o, (Effect.call query).concerns o = false) :
    DetachedCall (queryPath query returned) :=
  fun _ => ⟨_, rfl, detached_call engineFree libraryFree unconcerned⟩

theorem getFileSize_detached (path : String) (returned : UInt64) :
    DetachedCall (getFileSize path returned) :=
  fun _ => ⟨_, rfl, detached_call rfl rfl fun o => by cases o <;> rfl⟩

theorem version_detached (returned : String) : DetachedCall (Library.version returned) :=
  fun _ => ⟨_, rfl, detached_call rfl rfl fun o => by cases o <;> rfl⟩

/-- What an `Engine` operation appends calls neither `ferrocp_init` nor `ferrocp_cleanup`, and
    hands native memory over only in whole `ferrocp_result_t` blocks. -/
theorem engine_effects_quiet {extra : List Effect}
    (shape : (∃ created, extra = [.call (.engineCreate created)]) ∨
      (∃ h, extra = Engine.release h) ∨
      ∃ h request, extra = [.call (.copy h request), .call .freeResult] ∨
        extra = [.call (.copy h request), .read .result, .call .freeResult]) :
    (∀ e ∈ extra, e.touchesLibrary = false) ∧
      ∀ o, Blocks (Block o) (extra.filter (·.concerns o)) := by
  rcases shape with ⟨created, rfl⟩ | ⟨h, rfl⟩ | ⟨h, request, copied⟩
  · refine ⟨fun e mem => ?_, blocks_of_unconcerned fun e mem o => ?_⟩ <;>
      rw [List.mem_singleton.1 mem]
    · rfl
    · cases o <;> rfl
  · have destroys : ∀ e ∈ Engine.release h, e = .call (.engineDestroy h) := by
      unfold Engine.release
      split_ifs <;> simp
    refine ⟨fun e mem => ?_, blocks_of_unconcerned fun e mem o => ?_⟩ <;> rw [destroys e mem]
    · rfl
    · cases o <;> rfl
  · have block : Block .result extra := ⟨h, request, copied⟩
    refine ⟨fun e mem => ?_, block.blocks⟩
    rcases copied with rfl | rfl <;>
      simp only [List.mem_cons, List.mem_singleton, List.not_mem_nil, or_false] at mem <;>
      rcases mem with rfl | rfl | rfl <;> rfl

/-- What a `Library` operation appends touches no engine and concerns no native memory. -/
theorem library_effects_quiet {extra : List Effect}
    (shape : (∃ returned, extra = [.call (.init returned)]) ∨ extra = [.call .cleanup]) :
    (∀ e ∈ extra, e.touchesEngine = false) ∧ ∀ o, extra.filter (·.concerns o) = [] := by
  rcases shape with ⟨returned, rfl⟩ | rfl <;>
    exact ⟨fun e mem => by rw [List.mem_singleton.1 mem]; rfl, fun o => by cases o <;> rfl⟩

/-- `e` is a call of `ferrocp_init`, or comes after more successful initialisations than
    cleanups. -/
def AfterInit (pre : List Effect) (e : Effect) : Prop :=
  (∀ returned, e ≠ .call (.init returned)) → cleanupCount pre < initCount pre

/-- Effects that touch no library, appended while a `Library` is alive, come after more
    successful initialisations than cleanups. -/
theorem afterInit_append {t extra : List Effect} {live : Nat}
    (balanced : initCount t = cleanupCount t + live) (alive : 0 < live)
    (other : ∀ e ∈ extra, e.touchesLibrary = false) (before : Always AfterInit t) :
    Always AfterInit (t ++ extra) := by
  refine (always_append _).2 ⟨before, fun pre e post split _ => ?_⟩
  have counts :=
    library_counts_of_not_touchesLibrary pre fun x mem => other x (by simp [split, mem])
  simp only [initCount_append, cleanupCount_append, counts.1, counts.2]
  omega

namespace Client

theorem call_detached {α : Type} (c : Client) {f : Cpp α} (detached : DetachedCall f) :
    ∃ extra, c.call f = ⟨c.objects, c.libraries, c.effects ++ extra⟩ ∧ Detached extra := by
  obtain ⟨extra, grown, quiet⟩ := detached c.effects
  exact ⟨extra, by rw [call, grown], quiet⟩

/-- What one call does: an `Engine` operation runs `Heap.step` on the objects and the trace, a
    `Library` operation runs `Libraries.step` on the count and the trace, and any other call
    appends detached effects. -/
theorem step_cases {c c' : Client} {op : ClientOp} (stepped : c.step op = some c') :
    (∃ op' w, op = .engine op' ∧ c.heap.step op' = some w ∧
      c' = ⟨w.objects, c.libraries, w.effects⟩) ∨
    (∃ op' l, op = .library op' ∧ c.libs.step op' = some l ∧
      c' = ⟨c.objects, l.live, l.effects⟩) ∨
    (op.isLibrary = false ∧
      ∃ extra, c' = ⟨c.objects, c.libraries, c.effects ++ extra⟩ ∧ Detached extra) := by
  cases op with
  | engine op =>
    obtain ⟨w, heapStepped, rfl⟩ := Option.map_eq_some'.mp stepped
    exact .inl ⟨op, w, rfl, heapStepped, rfl⟩
  | library op =>
    obtain ⟨l, libStepped, rfl⟩ := Option.map_eq_some'.mp stepped
    exact .inr (.inl ⟨op, l, rfl, libStepped, rfl⟩)
  | version returned =>
    simp only [step] at stepped
    split_ifs at stepped
    cases stepped
    exact .inr (.inr ⟨rfl, c.call_detached (version_detached returned)⟩)
  | getDeviceInfo path outcome =>
    cases stepped
    exact .inr (.inr ⟨rfl, c.call_detached (getDeviceInfo_detached path outcome)⟩)
  | pathExists path returned =>
    cases stepped
    exact .inr (.inr ⟨rfl, c.call_detached
      (queryPath_detached (.pathExists path) returned rfl rfl fun o => by cases o <;> rfl)⟩)
  | isDirectory path returned =>
    cases stepped
    exact .inr (.inr ⟨rfl, c.call_detached
      (queryPath_detached (.isDirectory path) returned rfl rfl fun o => by cases o <;> rfl)⟩)
  | isFile path returned =>
    cases stepped
    exact .inr (.inr ⟨rfl, c.call_detached
      (queryPath_detached (.isFile path) returned rfl rfl fun o => by cases o <;> rfl)⟩)
  | getFileSize path returned =>
    cases stepped
    exact .inr (.inr ⟨rfl, c.call_detached (getFileSize_detached path returned)⟩)
  | joinPaths path1 path2 returned =>
    cases stepped
    exact .inr (.inr ⟨rfl,
      c.call_detached (ownedString_detached _ returned (.inl ⟨_, _, rfl⟩))⟩)
  | normalizePath path returned =>
    cases stepped
    exact .inr (.inr ⟨rfl,
      c.call_detached (ownedString_detached _ returned (.inr ⟨_, rfl⟩))⟩)

/-- The invariant of client programs: that of the `Engine` objects, that of the `Library`
    objects, and native memory handed over in whole blocks. -/
structure Inv (c : Client) : Prop where
  engines : c.heap.Inv
  libraries : c.libs.Inv
  memory : ∀ o, Blocks (Block o) (c.effects.filter (·.concerns o))

theorem inv_empty : empty.Inv :=
  ⟨Heap.inv_empty, Libraries.inv_empty, fun _ => .nil⟩

/-- Each call keeps the invariant. -/
theorem Inv.step {c c' : Client} {op : ClientOp} (inv : c.Inv) (admitted : c.Admits op = true)
    (stepped : c.step op = some c') : c'.Inv := by
  rcases step_cases stepped with
    ⟨op, w, rfl, heapStepped, rfl⟩ | ⟨op, l, rfl, libStepped, rfl⟩ |
      ⟨-, extra, rfl, touches, blocks⟩
  · obtain ⟨extra, grown, shape⟩ := Heap.step_effects heapStepped
    have quiet := engine_effects_quiet shape
    refine ⟨inv.engines.step admitted heapStepped, ?_, fun o => ?_⟩
    · dsimp only [libs]
      rw [grown]
      exact inv.libraries.record_other quiet.1
    · dsimp only
      rw [grown, List.filter_append]
      exact (inv.memory o).append (quiet.2 o)
  · obtain ⟨extra, grown, shape⟩ := Libraries.step_effects libStepped
    have quiet := library_effects_quiet shape
    refine ⟨?_, inv.libraries.step libStepped, fun o => ?_⟩
    · dsimp only [heap]
      rw [grown]
      exact inv.engines.record_other quiet.1
    · dsimp only
      rw [grown, List.filter_append, quiet.2 o, List.append_nil]
      exact inv.memory o
  · refine ⟨inv.engines.record_other fun e mem => (touches e mem).1,
      inv.libraries.record_other fun e mem => (touches e mem).2, fun o => ?_⟩
    dsimp only
    rw [List.filter_append]
    exact (inv.memory o).append (blocks o)

/-- A whole run keeps the invariant. -/
theorem Inv.run {c c' : Client} {ops : List ClientOp} (inv : c.Inv) (ran : c.run ops = some c') :
    c'.Inv := by
  induction ops generalizing c with
  | nil =>
    cases ran
    exact inv
  | cons op ops ih =>
    simp only [Client.run] at ran
    split_ifs at ran with admitted
    obtain ⟨next, stepped, rest⟩ := Option.bind_eq_some.mp ran
    exact ih (inv.step admitted stepped) rest

/-- Whether every call of `ops`, run from `c`, other than the construction or end of a `Library`
    is made while a `Library` object is alive. -/
def Guarded (c : Client) : List ClientOp → Bool
  | [] => true
  | op :: ops => (op.isLibrary || decide (0 < c.libraries)) &&
    match c.step op with
    | some next => next.Guarded ops
    | none => true

/-- A call made while a `Library` is alive, or a `Library` operation, keeps every native call
    but `ferrocp_init` after more successful initialisations than cleanups. -/
theorem Inv.afterInit_step {c c' : Client} {op : ClientOp} (inv : c.Inv)
    (before : Always AfterInit c.effects) (guard : op.isLibrary = true ∨ 0 < c.libraries)
    (stepped : c.step op = some c') : Always AfterInit c'.effects := by
  have balanced := inv.libraries.balanced
  rcases step_cases stepped with
    ⟨op, w, rfl, heapStepped, rfl⟩ | ⟨op, l, rfl, libStepped, rfl⟩ |
      ⟨notLibrary, extra, rfl, touches, -⟩
  · obtain ⟨extra, grown, shape⟩ := Heap.step_effects heapStepped
    have alive : 0 < c.libraries := by simpa [ClientOp.isLibrary] using guard
    dsimp only
    rw [grown]
    exact afterInit_append balanced alive (engine_effects_quiet shape).1 before
  · -- `ferrocp_init` needs nothing, and `ferrocp_cleanup` is ordered by the library invariant
    have matched := (inv.libraries.step libStepped).matched
    obtain ⟨extra, grown, shape⟩ := Libraries.step_effects libStepped
    dsimp only
    rw [grown] at matched ⊢
    refine (always_append _).2 ⟨before, fun pre e post split notInit => ?_⟩
    have mem : e ∈ extra := by simp [split]
    rcases shape with ⟨returned, rfl⟩ | rfl <;> rw [List.mem_singleton] at mem <;> subst mem
    · exact absurd rfl (notInit returned)
    · exact ((always_append _).1 matched).2 pre _ post split rfl
  · have alive : 0 < c.libraries := by simpa [notLibrary] using guard
    exact afterInit_append balanced alive (fun e mem => (touches e mem).2) before

/-- A guarded run keeps every native call but `ferrocp_init` after more successful
    initialisations than cleanups. -/
theorem Inv.afterInit_run {c c' : Client} {ops : List ClientOp} (inv : c.Inv)
    (before : Always AfterInit c.effects) (ran : c.run ops = some c')
    (guarded : c.Guarded ops = true) : Always AfterInit c'.effects := by
  induction ops generalizing c with
  | nil =>
    cases ran
    exact before
  | cons op ops ih =>
    simp only [Client.run] at ran
    split_ifs at ran with admitted
    obtain ⟨next, stepped, rest⟩ := Option.bind_eq_some.mp ran
    simp only [Guarded, stepped, Bool.and_eq_true, Bool.or_eq_true, decide_eq_true_eq] at guarded
    exact ih (inv.step admitted stepped) (inv.afterInit_step before guarded.1 stepped) rest
      guarded.2

end Client

/-- However a client program interleaves `Engine` objects, `Library` objects and the free
    functions: no two `Engine` objects hold the same nonzero handle; each `ferrocp_engine_destroy`
    gets a nonzero live handle and each `ferrocp_copy` `0` or a live one; once no `Engine` is
    left, every nonzero handle has been destroyed as often as created; each `ferrocp_cleanup`
    follows more successful `ferrocp_init` calls than cleanups; and once no `Library` is left,
    every successful initialisation has been cleaned up. -/
theorem client_engines_and_libraries {ops : List ClientOp} {c : Client}
    (ran : Client.empty.run ops = some c) :
    (∀ a b h, a ≠ b → c.objects a = some ⟨h⟩ → c.objects b = some ⟨h⟩ → h = 0) ∧
    Always HandleUse c.effects ∧
    ((∀ a, c.objects a = none) →
      ∀ h, h ≠ 0 → destroyCount h c.effects = createCount h c.effects) ∧
    (∀ pre post, c.effects = pre ++ .call .cleanup :: post → cleanupCount pre < initCount pre) ∧
    (c.libraries = 0 → cleanupCount c.effects = initCount c.effects) := by
  have inv := Client.inv_empty.run ran
  exact ⟨fun _ _ _ distinct => inv.engines.shared_eq_zero distinct, inv.engines.uses,
    fun gone _ => inv.engines.destroyCount_eq_of_gone gone,
    fun pre post split => inv.libraries.matched pre _ post split rfl,
    fun none_ => by simpa [Client.libs, none_] using inv.libraries.balanced.symm⟩

/-- Over any client program, restricted to one kind of native memory, the trace is a run of whole
    blocks: the call that hands an object over, then at most a read and one release. So no native
    object is released twice, released before it is handed over, or read after its release; each
    `ferrocp_copy` result is freed, and a string or device information is left unfreed only when
    the call returned none or `std::stoi` threw. -/
theorem client_native_memory_blocks {ops : List ClientOp} {c : Client}
    (ran : Client.empty.run ops = some c) (o : NativeObject) :
    Blocks (Block o) (c.effects.filter (·.concerns o)) :=
  (Client.inv_empty.run ran).memory o

/-- In a client program that keeps a `Library` alive around each of its other calls, every
    native call but `ferrocp_init` comes after more successful initialisations than cleanups:
    `ferrocp_init` is called before any other function, as `ferrocp.h:169` asks. The counts allow
    a cleanup while another `Library` is alive, which `~Library()` makes and `ferrocp.h:176-181`
    does not foresee (`FerroCP.Library`). -/
theorem client_calls_after_init {ops : List ClientOp} {c : Client}
    (ran : Client.empty.run ops = some c) (guarded : Client.empty.Guarded ops = true) :
    ∀ pre e post, c.effects = pre ++ e :: post → (∀ returned, e ≠ .call (.init returned)) →
      cleanupCount pre < initCount pre :=
  Client.inv_empty.afterInit_run (always_nil _) ran guarded

/-- A program that initialises the library, makes an engine whose copy fails, asks for device
    information whose type `std::stoi` rejects, joins two paths, and ends its objects. -/
def clientProgram : List ClientOp :=
  [.library (.construct 0), .engine (.construct 0 7),
    .engine (.copy 0 (.new "a" "b") ⟨3, ⟨some "denied"⟩⟩),
    .getDeviceInfo "/" ⟨0, ⟨some "SSD", none, 0, 0, 0, 0⟩⟩, .joinPaths "a" "b" (some "a/b"),
    .engine (.destruct 0), .library .destruct]

/-- The state `clientProgram` ends in. -/
def clientProgramEnd : Client :=
  (Client.empty.run clientProgram).get (by decide)

theorem client_engines_and_libraries_program :
    (∀ a b h, a ≠ b → clientProgramEnd.objects a = some ⟨h⟩ →
      clientProgramEnd.objects b = some ⟨h⟩ → h = 0) ∧
    Always HandleUse clientProgramEnd.effects ∧
    ((∀ a, clientProgramEnd.objects a = none) →
      ∀ h, h ≠ 0 → destroyCount h clientProgramEnd.effects = createCount h clientProgramEnd.effects) ∧
    (∀ pre post, clientProgramEnd.effects = pre ++ .call .cleanup :: post →
      cleanupCount pre < initCount pre) ∧
    (clientProgramEnd.libraries = 0 →
      cleanupCount clientProgramEnd.effects = initCount clientProgramEnd.effects) :=
  client_engines_and_libraries (Option.some_get _).symm

theorem client_native_memory_blocks_program :
    Blocks (Block .deviceInfo) (clientProgramEnd.effects.filter (·.concerns .deviceInfo)) :=
  client_native_memory_blocks (Option.some_get _).symm .deviceInfo

theorem client_calls_after_init_program :
    Client.empty.Guarded clientProgram = true ∧
      ∀ pre e post, clientProgramEnd.effects = pre ++ e :: post →
        (∀ returned, e ≠ .call (.init returned)) → cleanupCount pre < initCount pre :=
  ⟨by decide, client_calls_after_init (Option.some_get _).symm (by decide)⟩

end FerroCP
