import RustlsFfi.Model.Connection

/-!
# Call trees

While `rustls_connection_process_new_packets` runs, rustls calls back into C, and C may process other
connections from there. A `Script` is what rustls does during one such call and a `Host` is what a
stretch of C code does; together they are a call tree of any shape. Running a tree records what
every callback could see of the userdata stack and how every call left it.
-/

namespace RustlsFfi.CallTree
open Control

variable {Conn : Type}

inductive Callback where
  | verifyServerCert
  | clientHello
  | sessionGet
  | sessionPut
  | log
  deriving DecidableEq, Repr

mutual
/-- What rustls does during one processing step. -/
inductive Script where
  | exit (r : Res Error Unit)
  | callback (kind : Callback) (body : Host) (rest : Script)

/-- What C code does, inside a callback or outside of any call. -/
inductive Host where
  | done
  | setUserdata (conn : Ptr) (userdata : VoidPtr) (rest : Host)
  | setLogCallback (conn : Ptr) (cb : Option FnPtr) (rest : Host)
  | process (conn : Ptr) (script : Script) (rest : Host)
end

/-- How the step ends: normally, with an error or by unwinding. -/
def Script.outcome : Script → Res Error Unit
  | .exit r => r
  | .callback _ _ rest => rest.outcome

inductive Event where
  /-- A callback was about to run directly under a call with this frame. -/
  | saw (frame : Userdata) (userdata : Except UserdataError VoidPtr)
      (log : Except UserdataError (Option FnPtr × VoidPtr))
  /-- What `try_drop` makes of the stack that a step leaves. -/
  | released (r : Except UserdataError Unit)
  /-- A call returned. `frame` is the pair its connection had when it began, if the connection
  exists, and `pushed` the result of `userdata_push`. -/
  | ended (frame : Option Userdata) (pushed : Except UserdataError UserdataGuard)
      (step : Res Error Unit) (before after : List Userdata) (result : Outcome RustlsResult)

/-- The C program's state is the record of the run. -/
abbrev Traced (Conn : Type) := World Conn (List Event)

def record (e : Event) (w : Traced Conn) : Traced Conn := { w with app := w.app ++ [e] }

def frameOf (w : Traced Conn) (conn : Ptr) : Option Userdata :=
  (conn.bind (Arena.get w.conns)).map Connection.frame

/-- Whether an adapter passes on to C: the logger needs a log callback, the others a userdata. -/
def Callback.runs (kind : Callback) (k : UserdataKey) : Bool :=
  match kind with
  | .log => match logCallbackGet k with
    | .ok (some _, _) => true
    | _ => false
  | _ => (userdataGet k).toBool

mutual
def Script.run (frame : Userdata) : Script → Traced Conn → Res Error Unit × Traced Conn
  | .exit r, w => (r, record (.released ((UserdataGuard.new frame.userdata).tryDrop w.userdata).1) w)
  | .callback kind body rest, w =>
    let w := record (.saw frame (userdataGet w.userdata) (logCallbackGet w.userdata)) w
    rest.run frame (if kind.runs w.userdata then body.run w else w)

def Host.run : Host → Traced Conn → Traced Conn
  | .done, w => w
  | .setUserdata conn userdata rest, w => rest.run (rustlsConnectionSetUserdata conn userdata w).2
  | .setLogCallback conn cb rest, w => rest.run (rustlsConnectionSetLogCallback conn cb w).2
  | .process conn script rest, w =>
    let frame := (frameOf w conn).getD ⟨none, none⟩
    let (result, t) := rustlsConnectionProcessNewPackets (fun _ w => script.run frame w) conn w
    rest.run (record (.ended (frameOf w conn)
      (userdataPush frame.userdata frame.logCallback w.userdata).1 script.outcome
      w.userdata.stack t.userdata.stack result) t)
end

def Event.Good : Event → Prop
  | .saw frame userdata log =>
    userdata = .ok frame.userdata ∧ log = .ok (frame.logCallback, frame.userdata)
  | .released r => r = .ok ()
  | .ended frame pushed step before after result =>
    pushed.toBool = true ∧ after = before ∧
      (frame.isSome → result = .returned (match step with
        | .ok _ => .ok
        | .err e => mapError e
        | .panic => .panic))

/-! ### What a stretch of code keeps -/

/-- The stack is the same at the end, and nothing bad was recorded. -/
structure Kept (w t : Traced Conn) : Prop where
  userdata : t.userdata = w.userdata
  good : (∀ e ∈ w.app, e.Good) → ∀ e ∈ t.app, e.Good

theorem Kept.refl (w : Traced Conn) : Kept w w := ⟨rfl, id⟩

theorem Kept.trans {w t u : Traced Conn} (first : Kept w t) (second : Kept t u) : Kept w u :=
  ⟨second.userdata.trans first.userdata, fun h => second.good (first.good h)⟩

theorem Kept.usable {w t : Traced Conn} (kept : Kept w t) (usable : w.userdata.Usable) :
    t.userdata.Usable := by
  rw [kept.userdata]
  exact usable

theorem record_kept {e : Event} (w : Traced Conn) (good : e.Good) : Kept w (record e w) := by
  refine ⟨rfl, ?_⟩
  intro before e' member
  rcases List.mem_append.mp member with old | new
  · exact before e' old
  · rw [List.mem_singleton.mp new]
    exact good

theorem saw_good {k : UserdataKey} {frame : Userdata} {v : List Userdata} (usable : k.Usable)
    (top : k.stack = frame :: v) : (Event.saw frame (userdataGet k) (logCallbackGet k)).Good :=
  ⟨userdataGet_top usable top, logCallbackGet_top usable top⟩

theorem putConn_kept (f : Connection Conn → Connection Conn) (conn : Ptr) (w : Traced Conn) :
    Kept w (noBoundary (do
      let (a, c) ← tryFromPtr World.conns conn
      .modify (·.putConn a (f c)) : Body Conn (List Event) Unit Unit) w).2 := by
  cases conn with
  | none => exact .refl w
  | some a =>
    cases live : Arena.get w.conns a with
    | none => simpa [noBoundary, bind_run, tryFromPtr_dead live] using .refl w
    | some c =>
      simp only [noBoundary, bind_run, tryFromPtr_live live, modify_run]
      exact ⟨rfl, id⟩

theorem released_good {k : UserdataKey} {frame : Userdata} {v : List Userdata} (usable : k.Usable)
    (top : k.stack = frame :: v) :
    (Event.released ((UserdataGuard.new frame.userdata).tryDrop k).1).Good := by
  simp [Event.Good, tryDrop_own usable top]

theorem push_succeeds {k : UserdataKey} (usable : k.Usable) (u : VoidPtr) (cb : Option FnPtr) :
    (userdataPush u cb k).1.toBool = true := by
  simp [userdataPush_usable usable, Except.toBool]

/-- A call whose step leaves the stack alone, whatever way the step ends, leaves it alone too, and
its result tells how the step ended. -/
theorem process_kept {script : Script} {w : Traced Conn} (conn : Ptr) (usable : w.userdata.Usable)
    (step : ∀ (frame : Userdata) (t : Traced Conn), t.userdata.Usable →
      t.userdata.stack.head? = some frame →
      (script.run frame t).1 = script.outcome ∧ Kept t (script.run frame t).2) :
    Kept w (Host.run (.process conn script .done) w) := by
  have pushed := push_succeeds usable
  cases conn with
  | none => exact record_kept w ⟨pushed _ _, rfl, by simp [frameOf]⟩
  | some a =>
    cases live : Arena.get w.conns a with
    | none =>
      simp only [Host.run, processNewPackets_dangling live]
      exact record_kept w ⟨pushed _ _, rfl, by simp [frameOf, live]⟩
    | some c =>
      have frame : frameOf w (some a) = some c.frame := by simp [frameOf, live]
      obtain ⟨ended, kept⟩ := step c.frame (w.enter c) usable rfl
      have called := processNewPackets_live (f := fun _ t => script.run c.frame t) usable live
        kept.userdata
      simp only [Host.run, frame, Option.getD_some, called]
      have returned : Kept w { (script.run c.frame (w.enter c)).2 with userdata := w.userdata } :=
        ⟨rfl, kept.good⟩
      refine returned.trans (record_kept _ ?_)
      refine ⟨pushed _ _, rfl, fun _ => ?_⟩
      rw [ended]
      cases script.outcome <;> rfl

/-! ### The induction over the tree -/

mutual
theorem Script.run_kept (script : Script) (frame : Userdata) (w : Traced Conn)
    (usable : w.userdata.Usable) (top : w.userdata.stack.head? = some frame) :
    (script.run frame w).1 = script.outcome ∧ Kept w (script.run frame w).2 := by
  obtain ⟨v, top⟩ := List.head?_eq_some_iff.mp top
  cases script with
  | exit r => exact ⟨rfl, record_kept w (released_good usable top)⟩
  | callback kind body rest =>
    have seen := record_kept w (saw_good usable top)
    -- Whether or not the callback runs, the rest of the step finds the frame it started with.
    have ran : Kept w (if kind.runs w.userdata then
        body.run (record (.saw frame (userdataGet w.userdata) (logCallbackGet w.userdata)) w)
        else record (.saw frame (userdataGet w.userdata) (logCallbackGet w.userdata)) w) := by
      split
      · exact seen.trans (Host.run_kept body _ usable)
      · exact seen
    obtain ⟨ended, kept⟩ := Script.run_kept rest frame _ (ran.usable usable)
      (by rw [ran.userdata, top]; rfl)
    exact ⟨ended, ran.trans kept⟩

theorem Host.run_kept (host : Host) (w : Traced Conn) (usable : w.userdata.Usable) :
    Kept w (host.run w) := by
  cases host with
  | done => exact .refl w
  | setUserdata conn userdata rest =>
    have first := putConn_kept (fun c => { c with userdata := userdata }) conn w
    exact first.trans (Host.run_kept rest _ (first.usable usable))
  | setLogCallback conn cb rest =>
    have first := putConn_kept (fun c => { c with logCallback := cb }) conn w
    exact first.trans (Host.run_kept rest _ (first.usable usable))
  | process conn script rest =>
    have first := process_kept conn usable (Script.run_kept script)
    exact first.trans (Host.run_kept rest _ (first.usable usable))
end

/-- Whatever C and rustls do on a thread outside teardown, every call finds and leaves the same
stack, every callback sees the pair of the innermost call, and no push or release fails. -/
theorem callTree_discipline (host : Host) (w : Traced Conn) (usable : w.userdata.Usable)
    (fresh : w.app = []) :
    (host.run w).userdata.stack = w.userdata.stack ∧ ∀ e ∈ (host.run w).app, e.Good := by
  have kept := Host.run_kept host w usable
  exact ⟨congrArg UserdataKey.stack kept.userdata, kept.good (by simp [fresh])⟩

/-- Two connections; a callback of the first call renames its own connection and processes the
second one, where rustls panics, before rustls logs and ends with an error. -/
def nestedPanic : Host :=
  .process (some 0)
    (.callback .verifyServerCert
      (.setUserdata (some 0) (some 9) (.process (some 1) (.exit .panic) .done))
      (.callback .log .done (.exit (.err .decryptError))))
    .done

def twoConnections : Traced Unit :=
  { (World.initial [] : Traced Unit) with
    conns := [some ⟨(), .client, [], some 1, some 100⟩, some ⟨(), .server, [], some 2, none⟩] }

theorem callTree_discipline_nestedPanic :
    (nestedPanic.run twoConnections).userdata.stack = twoConnections.userdata.stack ∧
      ∀ e ∈ (nestedPanic.run twoConnections).app, e.Good :=
  callTree_discipline nestedPanic twoConnections ⟨rfl, rfl⟩ rfl

/-- The record of that run: the first callback, the inner call, the second callback, the outer call. -/
example : (nestedPanic.run twoConnections).app.length = 6 := by decide

end RustlsFfi.CallTree
