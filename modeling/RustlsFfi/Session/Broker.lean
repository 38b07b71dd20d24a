import RustlsFfi.Base.BoundedMap
import RustlsFfi.Model.Callback

/-!
# The session store

`SessionStoreBroker` hands a server's sessions to a store in C. If the callbacks do what their
documentation asks for, rustls sees a map that keeps values of at most 65 KiB.
-/

namespace RustlsFfi.Session
open Control BoundedMap

variable {Conn S : Type}

/-- The documented contract of the two callbacks, over the store they work on. -/
structure KeepsStore (C : CFunctions S) (b : SessionStoreBroker) (store : S → Map Bytes Bytes) : Prop where
  stored : ∀ u key value s, (C.sessionPut b.putCb u key value s).1 = 7000 →
    store (C.sessionPut b.putCb u key value s).2 =
      Function.update (store s) key.bytes (some value.bytes)
  unstored : ∀ u key value s, (C.sessionPut b.putCb u key value s).1 ≠ 7000 →
    store (C.sessionPut b.putCb u key value s).2 = store s
  absent : ∀ u key remove buf outN s, store s key.bytes = none →
    (C.sessionGet b.getCb u key remove buf buf.length outN s).1.result ≠ 7000 ∧
      store (C.sessionGet b.getCb u key remove buf buf.length outN s).2 = store s
  tooLarge : ∀ u key remove buf outN s v, store s key.bytes = some v → buf.length < v.length →
    (C.sessionGet b.getCb u key remove buf buf.length outN s).1.result ≠ 7000 ∧
      store (C.sessionGet b.getCb u key remove buf buf.length outN s).2 =
        Function.update (store s) key.bytes none
  found : ∀ u key remove buf outN s v, store s key.bytes = some v → v.length ≤ buf.length →
    (C.sessionGet b.getCb u key remove buf buf.length outN s).1.result = 7000 ∧
      (C.sessionGet b.getCb u key remove buf buf.length outN s).1.outN = v.length ∧
      (C.sessionGet b.getCb u key remove buf buf.length outN s).1.buf.take v.length = v ∧
      store (C.sessionGet b.getCb u key remove buf buf.length outN s).2 =
        if remove = 0 then store s else Function.update (store s) key.bytes none

/-- What rustls can get back of a value. -/
def fits (v : Bytes) : Bool := v.length ≤ 65 * 1024

def perform (C : CFunctions S) (b : SessionStoreBroker) (w : World Conn S) :
    Op Bytes Bytes → Except Fault (Reply Bytes) × World Conn S
  | .put key value => (.ok (.stored (b.put C key value w).1), (b.put C key value w).2)
  | .get key => ((b.get C key w).1.map .value, (b.get C key w).2)
  | .take key => ((b.take C key w).1.map .value, (b.take C key w).2)

/-- Operations one after the other, each with the userdata stack it finds. -/
def performAll (C : CFunctions S) (b : SessionStoreBroker) (w : World Conn S) :
    List (UserdataKey × Op Bytes Bytes) → Except Fault (List (Event Bytes Bytes)) × World Conn S
  | [] => (.ok [], w)
  | (k, op) :: rest =>
    match perform C b { w with userdata := k } op with
    | (.error f, w) => (.error f, w)
    | (.ok r, w) => ((performAll C b w rest).1.map ((op, r) :: ·), (performAll C b w rest).2)

/-- Whether `put_cb` takes on a value that is put: it returns `RUSTLS_RESULT_OK`. -/
def accepts (C : CFunctions S) (b : SessionStoreBroker) (w : World Conn S) : Op Bytes Bytes → Bool
  | .put key value =>
    match userdataGet w.userdata with
    | .ok u => (C.sessionPut b.putCb u (.ofSlice key) (.ofSlice value) w.app).1 = 7000
    | .error _ => false
  | _ => false

/-- What `put_cb` says of each operation, in the state that the ones before it have left. -/
def verdicts (C : CFunctions S) (b : SessionStoreBroker) (w : World Conn S) :
    List (UserdataKey × Op Bytes Bytes) → List Bool
  | [] => []
  | (k, op) :: rest =>
    accepts C b { w with userdata := k } op :: verdicts C b (perform C b { w with userdata := k } op).2 rest

/-- There is userdata to call a callback with. -/
def Served (k : UserdataKey) : Prop := k.Usable ∧ k.stack ≠ []

instance (k : UserdataKey) : Decidable (Served k) :=
  inferInstanceAs (Decidable ((_ ∧ _) ∧ _))

theorem userdataGet_served {k : UserdataKey} (served : Served k) : ∃ u, userdataGet k = .ok u := by
  obtain ⟨usable, nonempty⟩ := served
  obtain ⟨top, rest, stack⟩ := List.exists_cons_of_ne_nil nonempty
  exact ⟨_, userdataGet_top usable stack⟩

/-! ### One operation -/

section
variable {C : CFunctions S} {b : SessionStoreBroker} {store : S → Map Bytes Bytes} {w : World Conn S}
  {m : Map Bytes Bytes}

/-- A put calls `put_cb` and is answered as that answers. -/
theorem store_spec (keeps : KeepsStore C b store) {u : VoidPtr} (got : userdataGet w.userdata = .ok u)
    (key value : Bytes) :
    (b.store C key value w).1 = decide ((C.sessionPut b.putCb u (.ofSlice key) (.ofSlice value) w.app).1 = 7000) ∧
      store (b.store C key value w).2.app =
        if (C.sessionPut b.putCb u (.ofSlice key) (.ofSlice value) w.app).1 = 7000 then
          Function.update (store w.app) key (some value)
        else store w.app := by
  have stored := keeps.stored u (.ofSlice key) (.ofSlice value) w.app
  have unstored := keeps.unstored u (.ofSlice key) (.ofSlice value) w.app
  rcases reply : C.sessionPut b.putCb u (.ofSlice key) (.ofSlice value) w.app with ⟨c, s⟩
  rw [reply, bytes_ofSlice, bytes_ofSlice] at stored
  rw [reply] at unstored
  by_cases accepted : c = 7000
  · simp [SessionStoreBroker.store, got, reply, accepted, RustlsResult.code, stored]
  · simp [SessionStoreBroker.store, got, reply, accepted, RustlsResult.code, unstored]

theorem retrieve_called {u : VoidPtr} (got : userdataGet w.userdata = .ok u) (key : Bytes) (remove : Bool) :
    ∃ buf : Bytes, buf.length = 65 * 1024 ∧ ∀ out s,
      C.sessionGet b.getCb u (.ofSlice key) (if remove then 1 else 0) buf buf.length 0 w.app = (out, s) →
      b.retrieve C key remove w =
        (if out.result = 7000 then
          if out.outN ≤ buf.length then .ok (some (out.buf.take out.outN)) else .error .dangling
        else .ok none, { w with app := s }) := by
  refine ⟨List.replicate (65 * 1024) 0, List.length_replicate, fun out s reply => ?_⟩
  simp only [SessionStoreBroker.retrieve, got, reply]
  by_cases found : out.result = 7000
  · rw [(RustlsResult.tryFrom_eq_ok_iff _).mpr found, if_pos found]
    split_ifs <;> rfl
  · have refused := mt (RustlsResult.tryFrom_eq_ok_iff out.result).mp found
    rw [if_neg found]
    split
    · exact absurd ‹_› refused
    · rfl

theorem retrieve_spec (keeps : KeepsStore C b store) (served : Served w.userdata)
    (shown : Shows fits (store w.app) m) (key : Bytes) (remove : Bool) :
    (b.retrieve C key remove w).1 = .ok (m key) ∧
      Shows fits (store (b.retrieve C key remove w).2.app) (if remove then Function.update m key none else m) := by
  obtain ⟨u, got⟩ := userdataGet_served served
  obtain ⟨buf, room, called⟩ := retrieve_called (C := C) (b := b) got key remove
  have absent := keeps.absent u (.ofSlice key) (if remove then 1 else 0) buf 0 w.app
  have tooLarge := keeps.tooLarge u (.ofSlice key) (if remove then 1 else 0) buf 0 w.app
  have found := keeps.found u (.ofSlice key) (if remove then 1 else 0) buf 0 w.app
  rcases reply : C.sessionGet b.getCb u (.ofSlice key) (if remove then 1 else 0) buf buf.length 0 w.app with ⟨out, s⟩
  rw [called out s reply]
  rw [reply, bytes_ofSlice] at absent
  simp only [reply, bytes_ofSlice] at tooLarge found
  cases held : store w.app key with
  | none =>
    obtain ⟨refused, kept⟩ := absent held
    have nothing : m key = none := by rw [shown key, held, Option.filter_none]
    rw [if_neg refused, nothing, kept]
    refine ⟨rfl, ?_⟩
    split
    · exact shown.without nothing
    · exact shown
  | some v =>
    by_cases fit : v.length ≤ buf.length
    · obtain ⟨accepted, length, copied, kept⟩ := found v held fit
      have something : m key = some v := by simp [shown key, held, fits, ← room, fit]
      rw [if_pos accepted, length, if_pos fit, copied, something, kept]
      refine ⟨rfl, ?_⟩
      cases remove with
      | false => exact shown
      | true => exact shown.update key none
    · obtain ⟨refused, kept⟩ := tooLarge v held (Nat.lt_of_not_le fit)
      have nothing : m key = none := by simpa [shown key, held, fits, ← room] using fit
      rw [if_neg refused, nothing, kept]
      refine ⟨rfl, ?_⟩
      split
      · exact shown.update key none
      · exact shown.erase nothing

/-- Every operation is answered as the map answers it. -/
theorem perform_answers (keeps : KeepsStore C b store) (served : Served w.userdata)
    (shown : Shows fits (store w.app) m) (op : Op Bytes Bytes) :
    ∃ r, (perform C b w op).1 = .ok r ∧ Answers (accepts C b w op) m (op, r) ∧
      Shows fits (store (perform C b w op).2.app) (m.after fits (op, r)) := by
  cases op with
  | put key value =>
    obtain ⟨u, got⟩ := userdataGet_served served
    obtain ⟨answer, kept⟩ := store_spec keeps got key value
    refine ⟨.stored (b.store C key value w).1, rfl, ?_, ?_⟩
    · simp only [Answers, accepts, got, answer]
    · change Shows fits (store (b.store C key value w).2.app) _
      rw [kept, answer]
      by_cases accepted : (C.sessionPut b.putCb u (.ofSlice key) (.ofSlice value) w.app).1 = 7000
      · simpa only [accepted, if_true, decide_true, Map.after] using shown.update key (some value)
      · simpa only [accepted, if_false, decide_false, Map.after] using shown
  | get key =>
    obtain ⟨answer, shown⟩ := retrieve_spec keeps served shown key false
    refine ⟨.value (m key), ?_, rfl, ?_⟩
    · simp [perform, SessionStoreBroker.get, answer, Except.map]
    · simpa [perform, SessionStoreBroker.get] using shown
  | take key =>
    obtain ⟨answer, shown⟩ := retrieve_spec keeps served shown key true
    refine ⟨.value (m key), ?_, rfl, ?_⟩
    · simp [perform, SessionStoreBroker.take, answer, Except.map]
    · simpa [perform, SessionStoreBroker.take] using shown

theorem performAll_answered (keeps : KeepsStore C b store) (turns : List (UserdataKey × Op Bytes Bytes))
    (served : ∀ turn ∈ turns, Served turn.1) (shown : Shows fits (store w.app) m) :
    ∃ events m', (performAll C b w turns).1 = .ok events ∧ events.map Prod.fst = turns.map Prod.snd ∧
      Answered fits (verdicts C b w turns) m events m' ∧ Shows fits (store (performAll C b w turns).2.app) m' := by
  induction turns generalizing w m with
  | nil => exact ⟨[], m, rfl, rfl, .nil m, shown⟩
  | cons turn rest ih =>
    obtain ⟨k, op⟩ := turn
    have here : Served ({ w with userdata := k } : World Conn S).userdata := served (k, op) (by simp)
    obtain ⟨r, answer, answers, shown⟩ := perform_answers keeps here shown op
    obtain ⟨events, m', all, ops, answered, shown⟩ := ih (fun turn member => served turn (by simp [member])) shown
    rcases done : perform C b { w with userdata := k } op with ⟨reply, w'⟩
    rw [done] at answer all answered shown
    obtain rfl : reply = .ok r := answer
    refine ⟨(op, r) :: events, m', ?_, ?_, ?_, ?_⟩
    · simp [performAll, done, all, Except.map]
    · simp [ops]
    · rw [verdicts, done]
      exact .cons answers answered
    · simpa [performAll, done] using shown

end

/-- Through the broker, a store that starts empty is a map. A put is answered by whether `put_cb` returned
`RUSTLS_RESULT_OK`, and exactly then the value is in the store. A retrieval finds exactly the bytes of the
last accepted put of its key if they are at most 65 KiB, and nothing if there was none; what was taken is
gone until the next accepted put. -/
theorem broker_refines_map {C : CFunctions S} {b : SessionStoreBroker} {store : S → Map Bytes Bytes}
    (keeps : KeepsStore C b store) (w : World Conn S) (empty : store w.app = fun _ => none)
    (turns : List (UserdataKey × Op Bytes Bytes)) (served : ∀ turn ∈ turns, Served turn.1) :
    (∃ events m, (performAll C b w turns).1 = .ok events ∧ events.map Prod.fst = turns.map Prod.snd ∧
      Answered fits (verdicts C b w turns) (fun _ => none) events m ∧
      Shows fits (store (performAll C b w turns).2.app) m ∧
      (∀ pre mid post k v op r,
        events = pre ++ (.put k v, .stored true) :: (mid ++ (op, .value r) :: post) → op.Retrieves k →
        (∀ e ∈ mid, ¬ Stores k e ∧ ¬ Takes k e) → r = if v.length ≤ 65 * 1024 then some v else none) ∧
      (∀ pre post k op r, events = pre ++ (op, .value r) :: post → op.Retrieves k →
        (∀ e ∈ pre, ¬ Stores k e) → r = none) ∧
      (∀ pre mid post k taken op r,
        events = pre ++ (.take k, taken) :: (mid ++ (op, .value r) :: post) → op.Retrieves k →
        (∀ e ∈ mid, ¬ Stores k e) → r = none)) ∧
    ∀ (before : World Conn S) (u : VoidPtr) (k v : Bytes), userdataGet before.userdata = .ok u →
      (perform C b before (.put k v)).1 =
        .ok (.stored (decide ((C.sessionPut b.putCb u (.ofSlice k) (.ofSlice v) before.app).1 = 7000))) ∧
      store (perform C b before (.put k v)).2.app =
        if (C.sessionPut b.putCb u (.ofSlice k) (.ofSlice v) before.app).1 = 7000 then
          Function.update (store before.app) k (some v)
        else store before.app := by
  refine ⟨?_, fun before u k v got => ?_⟩
  rotate_left
  · obtain ⟨answer, kept⟩ := store_spec keeps got k v
    exact ⟨congrArg (fun ok => Except.ok (Reply.stored ok)) answer, kept⟩
  have shown : Shows fits (store w.app) (fun _ => none) := by
    rw [empty]
    exact shows_empty
  obtain ⟨events, m, all, ops, answered, shown⟩ := performAll_answered keeps turns served shown
  refine ⟨events, m, all, ops, answered, shown, ?_, ?_, ?_⟩
  · rintro pre mid post k v op r rfl retrieves untouched
    rw [retrieved_last_put answered retrieves untouched]
    simp [fits, Option.filter_some]
  · rintro pre post k op r rfl retrieves unstored
    exact retrieved_nothing answered retrieves unstored rfl
  · rintro pre mid post k taken op r rfl retrieves unstored
    exact retrieved_after_take answered retrieves unstored

/-- Callbacks of a C program that keeps its sessions in a map. -/
def inMemory : CFunctions (Map Bytes Bytes) where
  verify _ _ _ s := (RustlsResult.general.code, s)
  sessionGet _ _ key remove buf count outN s :=
    match s key.bytes with
    | none => (⟨RustlsResult.notFound.code, buf, outN⟩, s)
    | some v =>
      if v.length ≤ count then
        (⟨7000, v ++ buf.drop v.length, v.length⟩,
          if remove = 0 then s else Function.update s key.bytes none)
      else (⟨RustlsResult.notFound.code, buf, outN⟩, Function.update s key.bytes none)
  sessionPut _ _ key value s := (7000, Function.update s key.bytes (some value.bytes))

theorem inMemory_keepsStore (b : SessionStoreBroker) : KeepsStore inMemory b id where
  stored _ _ _ _ _ := rfl
  unstored _ _ _ _ refused := absurd rfl refused
  absent _ _ _ _ _ s held := by
    rw [id_eq] at held
    simp [inMemory, held, RustlsResult.code]
  tooLarge _ _ _ _ _ s v held large := by
    rw [id_eq] at held
    simp [inMemory, held, RustlsResult.code, Nat.not_le.mpr large]
  found _ _ _ _ _ s v held fit := by
    rw [id_eq] at held
    simp [inMemory, held, fit]

theorem broker_refines_map_singleUse :
    let turns : List (UserdataKey × Op Bytes Bytes) :=
      [(⟨false, false, [⟨some 1, none⟩]⟩, .put [1] [5, 6]), (⟨false, false, [⟨some 2, none⟩]⟩, .take [1]),
        (⟨false, false, [⟨some 1, none⟩]⟩, .take [1])]
    (∀ turn ∈ turns, Served turn.1) ∧
      (performAll inMemory ⟨0, 0⟩ (World.initial fun _ => none : World Unit _) turns).1 =
        .ok [(.put [1] [5, 6], .stored true), (.take [1], .value (some [5, 6])), (.take [1], .value none)] := by
  intro turns
  have served : ∀ turn ∈ turns, Served turn.1 := by decide
  refine ⟨served, ?_⟩
  obtain ⟨⟨events, m, all, ops, answered, -, last, -, gone⟩, -⟩ := broker_refines_map (inMemory_keepsStore ⟨0, 0⟩)
    (World.initial fun _ => none : World Unit _) rfl turns served
  rcases events with _ | ⟨⟨_, r₁⟩, _ | ⟨⟨_, r₂⟩, _ | ⟨⟨_, r₃⟩, _ | _⟩⟩⟩ <;> simp [turns] at ops
  obtain ⟨rfl, rfl, rfl⟩ := ops
  rcases answered with _ | ⟨first, _ | ⟨second, _ | ⟨third, _⟩⟩⟩
  rcases r₁ with stored | _
  · rcases r₂ with _ | found
    · exact second.elim
    rcases r₃ with _ | left
    · exact third.elim
    obtain rfl : stored = true := first
    rw [gone [_] [] [] [1] _ (.take [1]) left rfl (.inr rfl) (List.forall_mem_nil _),
      last [] [] [_] [1] [5, 6] (.take [1]) found rfl (.inr rfl) (List.forall_mem_nil _)] at all
    exact all
  · exact first.elim

end RustlsFfi.Session
