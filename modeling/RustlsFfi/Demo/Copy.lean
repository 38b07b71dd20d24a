import RustlsFfi.Demo.Common
import RustlsFfi.Stream.Duplex

/-!
# Copying plaintext

`copy_plaintext_to_buffer` reads until rustls has nothing left, in as many rounds as that takes, and grows the
buffer as it goes.
-/

namespace RustlsFfi.Demo
open Code Plaintext Outgoing EndToEnd Duplex

variable {Peer Conn S ρ : Type}

/-- A process at its end of a session, with its connection and all that will ever arrive for it. -/
structure Party (Peer Conn S : Type) extends Session Peer Conn S where
  rconn : Addr
  wire : Bytes

/-- A system call that is not about the session. -/
def Party.Still (P : Party Peer Conn S) (s s' : S) : Prop := P.Kept s s' ∧ P.sent s' = P.sent s

/-- The operating system hands over what arrives on the socket `fd`, in order, and takes what is sent on it. -/
structure Os.Serves (os : Os S) (P : Party Peer Conn S) (fd : Int32) : Prop where
  reports : ∀ n s, P.view.reports (os.recv fd n s).2 = P.view.reports s ++ [match (os.recv fd n s).1 with
    | .ok bytes => ⟨⟨0⟩, bytes.1.length⟩
    | .error e => ⟨⟨e⟩, 0⟩]
  got : ∀ n s, P.got s <+: P.wire → P.got (os.recv fd n s).2 <+: P.wire ∧
    P.got (os.recv fd n s).2 = P.got s ++ match (os.recv fd n s).1 with
      | .ok bytes => bytes.1
      | .error _ => []
  recv : ∀ n s, P.sent (os.recv fd n s).2 = P.sent s
  send : ∀ buf s, P.Kept s (os.send fd buf s).2 ∧ P.sent (os.send fd buf s).2 = P.sent s ++ match (os.send fd buf s).1 with
    | .ok n => buf.take n
    | .error _ => []
  writev : ∀ bufs s, P.Kept s (os.writev fd bufs s).2 ∧
    P.sent (os.writev fd bufs s).2 = P.sent s ++ match (os.writev fd bufs s).1 with
      | .ok n => bufs.flatten.take n
      | .error _ => []
  select : ∀ r w s, P.Still s (os.select fd r w s).2
  read : ∀ s, P.Still s (os.read fd s).2
  write : ∀ buf s, P.Still s (os.write 1 buf s).2
  close : ∀ s, P.Still s (os.close fd s)
  alloc : ∀ n s, P.Still s (os.alloc n s).2

/-! ### The buffer -/

namespace ByteVec

variable (vec : ByteVec)

theorem contents_length : vec.contents.length = vec.len := by
  rw [contents, List.length_take, Nat.min_eq_left vec.fits]

theorem contents_moved {n : Nat} (block : Block n) (larger : vec.len ≤ n) :
    (vec.moved block larger).contents = vec.contents := by
  have fits := vec.fits
  simp only [contents, moved]
  rw [List.take_append_of_le_length (by rw [List.length_take]; omega), List.take_take, Nat.min_eq_left larger]

theorem capacity_moved {n : Nat} (block : Block n) (larger : vec.len ≤ n) : (vec.moved block larger).capacity = n := by
  have size := block.2.1
  simp only [capacity, moved, List.length_append, List.length_take, List.length_drop]
  omega

theorem writeable_length : vec.writeable.length = vec.capacity - vec.len := by
  rw [writeable, List.length_drop, capacity]

theorem capacity_store (bytes : Bytes) : (vec.store bytes).capacity = vec.capacity := by
  have fits := vec.fits
  simp only [capacity, store, contents, writeable, List.length_append, List.length_take, List.length_drop]
  omega

/-- What has been stored is there once it is counted. -/
theorem take_store {bytes : Bytes} {n : Nat} (room : n ≤ vec.capacity - vec.len) (stored : n ≤ bytes.length) :
    (vec.store bytes).data.take (vec.len + n) = vec.contents ++ bytes.take n := by
  have first : (bytes.take vec.writeable.length).take n = bytes.take n := by
    rw [List.take_take, Nat.min_eq_left (by rw [writeable_length]; exact room)]
  have data : (vec.store bytes).data =
      vec.contents ++ (bytes.take vec.writeable.length ++ vec.writeable.drop bytes.length) := rfl
  rw [data, ← contents_length vec, List.take_length_add_append,
    List.take_append_of_le_length (by rw [List.length_take, writeable_length]; omega), first]

theorem contents_store (bytes : Bytes) : (vec.store bytes).contents = vec.contents := by
  have none : (vec.store bytes).data.take (vec.len + 0) = vec.contents ++ bytes.take 0 :=
    take_store vec (Nat.zero_le _) (Nat.zero_le _)
  simpa [contents, store] using none

end ByteVec

theorem newSize_eq (vec : ByteVec) {n : Nat} (small : n ≤ ptrdiffMax) :
    newSize vec n = max (vec.len + n) (vec.capacity * 2) := by
  have fits := vec.fits
  have bound := vec.small
  have room : ptrdiffMax + ptrdiffMax < sizeRange := by decide
  rw [newSize, ByteVec.capacity, Nat.mod_eq_of_lt (by omega), Nat.mod_eq_of_lt (by omega)]

/-! ### One round -/

/-- The buffer holds what the program has read of the connection. -/
structure Reading (P : Party Peer Conn S) (g : Record Conn) (p : Process Conn S) : Prop where
  converses : Converses P.toSession P.wire P.rconn g p.world
  contents : p.data.contents = g.history.delivered

/-- A connection on which nothing has happened, and an empty buffer. -/
structure Begins (P : Party Peer Conn S) (c : Connection Conn) (p : Process Conn S) : Prop where
  fresh : Fresh P.view P.rconn p.world c
  received : P.incoming.received c.conn = []
  opened : P.incoming.opened c.conn = []
  got : P.got p.world.app = []
  nothing : P.incoming.opens [] = []
  accepted : P.outgoing.accepted c.conn = []
  produced : P.outgoing.produced c.conn = (P.outgoing.chunks c.conn).flatten
  sent : P.sent p.world.app = []
  empty : p.data.len = 0

section
variable {R : Rustls Conn S} {P : Party Peer Conn S} {os : Os S} {conn : ConnData} {g : Record Conn}
  {p : Process Conn S}

theorem Begins.reading {c : Connection Conn} (begins : Begins P c p) : Reading P { conn := c } p where
  converses.follows := begins.fresh.tracks.follows
  converses.receiving := by
    refine ⟨begins.fresh.tracks.balanced, ?_, begins.opened.symm, ?_, ?_⟩
    · rw [begins.received, begins.got]
    · rw [begins.opened]
      exact List.nil_prefix
    · rw [begins.got]
      exact List.nil_prefix
  converses.sending := ⟨begins.fresh.live, begins.accepted, by rw [begins.produced, begins.sent, List.nil_append]⟩
  contents := by rw [ByteVec.contents, begins.empty, List.take_zero]

theorem Reading.len (reading : Reading P g p) : p.data.len = g.history.delivered.length := by
  rw [← reading.contents, ByteVec.contents_length]

/-- What a call leaves alone that is not about the session. -/
structure Untouched (P : Party Peer Conn S) (p p' : Process Conn S) : Prop where
  conns : p'.world.conns = p.world.conns
  still : P.Still p.world.app p'.world.app
  contents : p'.data.contents = p.data.contents

theorem Untouched.refl (p : Process Conn S) : Untouched P p p := ⟨rfl, ⟨⟨rfl, rfl⟩, rfl⟩, rfl⟩

theorem Reading.untouched {p' : Process Conn S} (reading : Reading P g p) (untouched : Untouched P p p') :
    Reading P g p' where
  converses := by
    refine reading.converses.apart ?_ untouched.still.1 untouched.still.2
    rw [untouched.conns]
    exact reading.converses.live
  contents := untouched.contents.trans reading.contents

/-- Asking for memory is not about the session. -/
def Os.Allocates (os : Os S) (P : Party Peer Conn S) : Prop := ∀ n s, P.Still s (os.alloc n s).2

/-- From `s` on, requests for memory were granted one after the other. -/
inductive Os.Granted (os : Os S) (s : S) : S → Prop
  | nothing : os.Granted s s
  | more {n : Nat} {block : Block n} {s' s'' : S} (earlier : os.Granted s s')
      (asked : os.alloc n s' = (some block, s'')) : os.Granted s s''

/-- Since `p₀` the buffer has got all the memory that it asked for, until it asked for room for `n` bytes more and
the system refused. -/
def Refused (os : Os S) (n : Nat) (p₀ p : Process Conn S) : Prop :=
  p.data.capacity - p.data.len < n ∧
    ∃ s, os.Granted p₀.world.app s ∧ os.alloc (newSize p.data n) s = (none, p.world.app)

theorem ensureAvailable_spec (allocates : os.Allocates P) {n : Nat} (small : n ≤ ptrdiffMax) {p₀ : Process Conn S}
    (granted : os.Granted p₀.world.app p.world.app) :
    wp (bytevecEnsureAvailable os n)
      ⟨fun r p' => r = .ok ∧ Untouched P p p' ∧ os.Granted p₀.world.app p'.world.app ∧
          p'.data.len + n ≤ p'.data.capacity,
        fun r p' => r = .error ∧ Untouched P p p' ∧ Refused os n p₀ p', fun _ => False, fun _ => False⟩ p := by
  have fits := p.data.fits
  have size := newSize_eq p.data small
  unfold wp bytevecEnsureAvailable
  by_cases short : p.data.capacity - p.data.len < n
  · have still := allocates (newSize p.data n) p.world.app
    rw [if_pos short]
    rcases asked : os.alloc (newSize p.data n) p.world.app with ⟨_ | block, s⟩
    · rw [asked] at still
      exact ⟨rfl, ⟨rfl, still, rfl⟩, short, _, granted, asked⟩
    · rw [asked] at still
      have enough : p.data.len + n ≤ newSize p.data n := by omega
      have larger : p.data.len ≤ newSize p.data n := by omega
      simp only [dif_pos larger]
      exact ⟨rfl, ⟨rfl, still, p.data.contents_moved block larger⟩, granted.more asked,
        enough.trans_eq (p.data.capacity_moved block larger).symm⟩
  · rw [if_neg short]
    refine ⟨rfl, .refl p, granted, ?_⟩
    rw [ByteVec.capacity] at short ⊢
    omega

theorem wp_ffi {τ : Type} {f : Api Conn S τ} {Q : Post (Process Conn S) ρ τ} {r : τ}
    (returned : (f p.world).1 = .returned r) : wp (ffi f) Q p ↔ Q.next r { p with world := (f p.world).2 } := by
  unfold wp ffi
  rcases ended : f p.world with ⟨o, w⟩
  rw [ended] at returned
  obtain rfl : o = .returned r := returned
  exact Iff.rfl

theorem reported_returned {V : View Conn S} {h : History} {w : World Conn S} {l n : Addr} {count : Nat}
    {o : Control.Outcome RustlsResult × World Conn S} (reported : Reported V h w l n count o) : ∃ r, o.1 = .returned r := by
  unfold Reported at reported
  split_ifs at reported
  · exact ⟨_, reported.1⟩
  · exact ⟨_, reported.1⟩
  · exact ⟨_, reported⟩
  · exact ⟨_, reported⟩

/-- What `rustls_connection_read` into the buffer has to report. -/
def ReadReported (P : Party Peer Conn S) (h : History) (p : Process Conn S) (r : RustlsResult) (p' : Process Conn S) : Prop :=
  if h.delivered ≠ h.decrypted then
    r = .ok ∧ 1 ≤ p'.world.cells.size nAt ∧ p'.data.len + p'.world.cells.size nAt ≤ p'.data.capacity
  else if h.finished then r = .ok ∧ p'.world.cells.size nAt = 0
  else if ended ∈ P.view.reports p.world.app then r = .unexpectedEof
  else r = .plaintextEmpty

/-- After the read the connection is that of a record `g'` which counts what is now in the buffer, past `len`. -/
theorem readWriteable_spec (library : Draws R P.toSession) (reading : Reading P g p) (named : conn.rconn = some P.rconn)
    (room : p.data.len + 1024 ≤ p.data.capacity) :
    wp (readWriteable R conn.rconn : Code (Process Conn S) ρ _)
      ⟨fun r p' => ReadReported P g.history p r p' ∧ p'.data.len = p.data.len ∧ p'.data.capacity = p.data.capacity ∧
          p'.world.app = p.world.app ∧
          ∃ g' added, Converses P.toSession P.wire P.rconn g' p'.world ∧ g'.history.decrypted = g.history.decrypted ∧
            g'.history.finished = g.history.finished ∧ g'.written = g.written ∧
            g'.history.delivered = g.history.delivered ++ added ∧
            p'.data.data.take (p'.data.len + added.length) = g'.history.delivered ∧
            added.length = if r = .ok then p'.world.cells.size nAt else 0,
        fun _ _ => False, fun _ => False, fun _ => False⟩ p := by
  have writeable : (lend p.data.writeable p.world).cells.buf bufAt = p.data.writeable := by
    simp [lend]
  have fits : p.data.capacity - p.data.len ≤ ((lend p.data.writeable p.world).cells.buf bufAt).length := by
    rw [writeable, ByteVec.writeable_length]
  have lent : Converses P.toSession P.wire P.rconn g (lend p.data.writeable p.world) :=
    reading.converses.apart reading.converses.live ⟨rfl, rfl⟩ rfl
  have positive : 0 < p.data.capacity - p.data.len := by omega
  have reported := readPlaintext_reported (n := nAt) library.reads lent.tracks positive fits
  obtain ⟨c', after⟩ := read_converses library lent (some bufAt) positive (some nAt)
  have app := (readPlaintext_conn (Grows.refl P.outgoing) library.outgoing lent.live (some bufAt)
    (p.data.capacity - p.data.len) (some nAt)).2
  obtain ⟨r, returned⟩ := reported_returned reported
  rw [named]
  simp only [readWriteable, wp_bind, wp_get, wp_modify, Post.onNext]
  refine (wp_ffi returned).mpr ?_
  simp only [wp_pure, rustlsConnectionRead] at after ⊢
  generalize readPlaintext R.readerRead (some P.rconn) (some bufAt) (p.data.capacity - p.data.len) (some nAt)
    (lend p.data.writeable p.world) = o at after reported app returned ⊢
  have places := p.data.capacity_store (o.2.cells.buf bufAt)
  have counted : r = .ok → o.2.cells.size nAt ≤ p.data.capacity - p.data.len ∧
      o.2.cells.size nAt ≤ (o.2.cells.buf bufAt).length := by
    rintro rfl
    unfold Reported at reported
    split_ifs at reported
    · exact ⟨reported.2.2.1, reported.2.2.2.1⟩
    · rw [reported.2]
      exact ⟨Nat.zero_le _, Nat.zero_le _⟩
    · cases returned.symm.trans reported
    · cases returned.symm.trans reported
  have same : p.data.contents = g.history.delivered := reading.contents
  refine ⟨?_, rfl, places, app, _, if r = .ok then (o.2.cells.buf bufAt).take (o.2.cells.size nAt) else [],
    after, g.history.read_decrypted .., g.history.read_finished .., rfl, ?_⟩
  · simp only [Reported, show (lend p.data.writeable p.world).app = p.world.app from rfl] at reported
    unfold ReadReported
    split_ifs at reported ⊢
    · obtain rfl := Control.Outcome.returned.inj (returned.symm.trans reported.1)
      refine ⟨rfl, reported.2.1, ?_⟩
      have bound := reported.2.2.1
      show p.data.len + o.2.cells.size nAt ≤ (p.data.store (o.2.cells.buf bufAt)).capacity
      rw [places]
      omega
    · exact ⟨Control.Outcome.returned.inj (returned.symm.trans reported.1), reported.2⟩
    · exact Control.Outcome.returned.inj (returned.symm.trans reported)
    · exact Control.Outcome.returned.inj (returned.symm.trans reported)
  · by_cases ok : r = .ok
    · subst ok
      obtain ⟨room, stored⟩ := counted rfl
      have length : ((o.2.cells.buf bufAt).take (o.2.cells.size nAt)).length = o.2.cells.size nAt := by
        rw [List.length_take, Nat.min_eq_left stored]
      have read : (g.history.read (some bufAt) (some nAt) o).delivered =
          g.history.delivered ++ (o.2.cells.buf bufAt).take (o.2.cells.size nAt) := by
        simp [History.read, returned]
      rw [if_pos rfl, length, if_pos rfl, read, ← same]
      exact ⟨rfl, p.data.take_store room stored, rfl⟩
    · have read : g.history.read (some bufAt) (some nAt) o = g.history :=
        g.history.read_failed _ _ fun same => ok (Control.Outcome.returned.inj (returned.symm.trans same))
      rw [if_neg ok, if_neg ok, read, List.append_nil, ← same]
      exact ⟨rfl, p.data.contents_store _, rfl⟩

/-! ### The loop -/

/-- The program has read more of the same stream since `p₀` and `g₀`. -/
structure Progress (P : Party Peer Conn S) (g₀ : Record Conn) (p₀ : Process Conn S) (g : Record Conn)
    (p : Process Conn S) : Prop where
  reading : Reading P g p
  decrypted : g.history.decrypted = g₀.history.decrypted
  finished : g.history.finished = g₀.history.finished
  delivered : g₀.history.delivered <+: g.history.delivered
  written : g.written = g₀.written
  still : P.Still p₀.world.app p.world.app

theorem Party.Still.trans {s s' s'' : S} (first : P.Still s s') (second : P.Still s' s'') : P.Still s s'' :=
  ⟨⟨second.1.1.trans first.1.1, second.1.2.trans first.1.2⟩, second.2.trans first.2⟩

theorem Progress.untouched {g₀ : Record Conn} {p₀ p' : Process Conn S} (progress : Progress P g₀ p₀ g p)
    (untouched : Untouched P p p') : Progress P g₀ p₀ g p' :=
  { progress with
    reading := progress.reading.untouched untouched
    still := progress.still.trans untouched.still }

/-- How `copy_plaintext_to_buffer` ends. With OK or EOF all that was decrypted is in the buffer and there is
room for more; EOF stands for a clean close. An error is the end of the transport without one, or the system refused
memory that the buffer asked for. -/
def Copied (P : Party Peer Conn S) (os : Os S) (g₀ : Record Conn) (p₀ : Process Conn S) (r : DemoResult)
    (p : Process Conn S) : Prop :=
  ∃ g, Progress P g₀ p₀ g p ∧
    match r with
    | .ok => g.history.delivered = g.history.decrypted ∧ g.history.finished = false ∧
        ended ∉ P.view.reports p.world.app ∧ p.data.len + 1024 ≤ p.data.capacity
    | .eof => g.history.delivered = g.history.decrypted ∧ g.history.finished = true ∧ p.data.len + 1024 ≤ p.data.capacity
    | .error => Refused os 1024 p₀ p ∨
        g.history.delivered = g.history.decrypted ∧ g.history.finished = false ∧ ended ∈ P.view.reports p.world.app
    | .again => False

theorem wp_loadN {Q : Post (Process Conn S) ρ Nat} : wp loadN Q p ↔ Q.next (p.world.cells.size nAt) p := Iff.rfl

theorem wp_consume {Q : Post (Process Conn S) ρ Unit} {n : Nat} (fits : p.data.len + n ≤ p.data.data.length) :
    wp (bytevecConsume n) Q p ↔ Q.next () { p with data := { p.data with len := p.data.len + n, fits } } := by
  unfold wp bytevecConsume
  rw [dif_pos fits]
  exact Iff.rfl

/-- Each round that goes on hands over at least one byte. -/
theorem copyRound_spec (library : Draws R P.toSession) (allocates : os.Allocates P) (named : conn.rconn = some P.rconn)
    {g₀ : Record Conn} {p₀ : Process Conn S} (running : Process Conn S → Prop) (progress : Progress P g₀ p₀ g p)
    (granted : os.Granted p₀.world.app p.world.app) (room : p.data.len + 1024 ≤ p.data.capacity) :
    wp (copyRound R os conn)
      (Post.round ⟨Copied P os g₀ p₀, Copied P os g₀ p₀, fun _ => False, running⟩ fun _ p' =>
        (∃ g', Progress P g₀ p₀ g' p' ∧ os.Granted p₀.world.app p'.world.app ∧ p'.data.len + 1024 ≤ p'.data.capacity) ∧
          g₀.history.decrypted.length - p'.data.len < g₀.history.decrypted.length - p.data.len) p := by
  refine wp_seq (readWriteable_spec library progress.reading named room) ?_ (fun _ _ => False.elim) (fun _ => False.elim)
    (fun _ => False.elim)
  rintro r q ⟨reported, len, capacity, app, g', added, converses, decrypted, finished, written, delivered, taken, count⟩
  have prior : g₀.history.delivered <+: g'.history.delivered := by
    rw [delivered]
    exact progress.delivered.trans (List.prefix_append _ _)
  have reached : ∀ q' : Process Conn S, q'.world = q.world → q'.data.contents = g'.history.delivered →
      Progress P g₀ p₀ g' q' := by
    rintro q' world contents
    refine ⟨⟨world ▸ converses, contents⟩, decrypted.trans progress.decrypted, finished.trans progress.finished, prior,
      written.trans progress.written, ?_⟩
    rw [world, app]
    exact progress.still
  have nothing : added.length = 0 → g.history.delivered = g.history.decrypted →
      Progress P g₀ p₀ g' q ∧ g'.history.delivered = g'.history.decrypted := by
    rintro empty all
    obtain rfl := List.length_eq_zero_iff.mp empty
    rw [List.append_nil] at delivered
    exact ⟨reached q rfl taken, by rw [delivered, all, decrypted]⟩
  rw [← app] at granted
  unfold ReadReported at reported
  rw [← app] at reported
  split_ifs at reported with more isFinished isEnded
  · obtain ⟨rfl, some, fits⟩ := reported
    rw [if_pos rfl] at count
    refine wp_neg nofun (wp_neg (not_not_intro rfl) ?_)
    refine wp_bind.mpr (wp_loadN.mpr (wp_neg (by omega) ?_))
    refine wp_bind.mpr ((wp_consume fits).mpr ?_)
    have now := reached { q with data := { q.data with len := q.data.len + q.world.cells.size nAt, fits } } rfl
      (by rw [← taken, count]; rfl)
    refine wp_calls (ensureAvailable_spec allocates (by decide) granted) ?_ ?_ (fun _ => False.elim) (fun _ => False.elim)
    · rintro _ q₁ ⟨rfl, untouched, granted, room⟩
      refine wp_neg (not_not_intro rfl) ⟨⟨g', now.untouched untouched, granted, room⟩, ?_⟩
      have after := (now.untouched untouched).reading.len
      have before := progress.reading.len
      have longer := congrArg List.length delivered
      have whole := congrArg List.length converses.receiving.balanced.balance
      rw [List.length_append] at longer whole
      rw [decrypted, progress.decrypted] at whole
      omega
    · rintro _ q₁ ⟨rfl, untouched, refused⟩
      exact wp_pos nofun ⟨g', now.untouched untouched, .inl refused⟩
  · obtain ⟨rfl, zero⟩ := reported
    rw [if_pos rfl] at count
    obtain ⟨here, all⟩ := nothing (count.trans zero) (not_not.mp more)
    refine wp_neg nofun (wp_neg (not_not_intro rfl) (wp_bind.mpr (wp_loadN.mpr (wp_pos zero ?_))))
    exact ⟨g', here, all, finished.trans isFinished, by rw [len, capacity]; exact room⟩
  · subst reported
    obtain ⟨here, all⟩ := nothing count (not_not.mp more)
    refine wp_neg nofun (wp_pos nofun ?_)
    exact ⟨g', here, .inr ⟨all, finished.trans (Bool.eq_false_of_not_eq_true isFinished), isEnded⟩⟩
  · subst reported
    obtain ⟨here, all⟩ := nothing count (not_not.mp more)
    refine wp_pos rfl ?_
    exact ⟨g', here, all, finished.trans (Bool.eq_false_of_not_eq_true isFinished), isEnded,
      by rw [len, capacity]; exact room⟩

theorem copyPlaintextToBuffer_spec (library : Draws R P.toSession) (allocates : os.Allocates P) (reading : Reading P g p)
    (named : conn.rconn = some P.rconn) {fuel : Nat} {running : Process Conn S → Prop}
    (enough : g.history.decrypted.length - g.history.delivered.length < fuel ∨ ∀ g' t, Progress P g p g' t → running t) :
    wp (copyPlaintextToBuffer R os fuel conn) ⟨Copied P os g p, Copied P os g p, fun _ => False, running⟩ p := by
  have start : Progress P g p g p := ⟨reading, rfl, rfl, List.prefix_rfl, rfl, ⟨rfl, rfl⟩, rfl⟩
  refine wp_calls (ensureAvailable_spec allocates (by decide) .nothing) ?_ ?_ (fun _ => False.elim) (fun _ => False.elim)
  · rintro _ p₁ ⟨rfl, untouched, granted, room⟩
    have begun := start.untouched untouched
    refine wp_neg (not_not_intro rfl) ?_
    -- Each round hands over at least one byte, and no more than was decrypted.
    refine wp_loop_ranked (fun _ q => ∃ g', Progress P g p g' q ∧ os.Granted p.world.app q.world.app ∧
      q.data.len + 1024 ≤ q.data.capacity) (fun _ q => g.history.decrypted.length - q.data.len) ?_
      ⟨g, begun, granted, room⟩ ?_
    · rintro - q ⟨g', progress, granted, room⟩
      exact copyRound_spec library allocates named running progress granted room
    · rw [begun.reading.len]
      exact enough.imp_right fun always _ t ⟨g', progress, _⟩ => always g' t progress
  · rintro _ p₁ ⟨rfl, untouched, refused⟩
    exact wp_pos nofun ⟨g, start.untouched untouched, .inl refused⟩

end

/-! ### A system that meets the assumptions -/

/-- What has happened on the socket. -/
structure Tape where
  reports : List IoReturn := []
  got : Bytes := []
  sent : Bytes := []

/-- A system on whose socket the bytes of `wire` are waiting, and nothing after them. -/
def tapeOs (wire : Bytes) : Os Tape where
  recv _ n s :=
    let next := (wire.drop s.got.length).take n
    if next = [] then (.error ⟨EAGAIN, by decide⟩, { s with reports := s.reports ++ [⟨⟨EAGAIN⟩, 0⟩] })
    else (.ok ⟨next, by simp [next]⟩,
      { s with reports := s.reports ++ [⟨⟨0⟩, next.length⟩], got := s.got ++ next })
  send _ buf s := (.ok ⟨buf.length, Nat.le_refl _⟩, { s with sent := s.sent ++ buf })
  writev _ bufs s := (.ok ⟨bufs.flatten.length, Nat.le_refl _⟩, { s with sent := s.sent ++ bufs.flatten })
  select _ r w s := (.ok (r, w), s)
  read _ s := (.error ⟨EAGAIN, by decide⟩, s)
  write _ buf s := (.ok ⟨buf.length, Nat.le_refl _⟩, s)
  close _ s := s
  alloc n s := (if small : n ≤ ptrdiffMax then some ⟨List.replicate n 0, List.length_replicate, small⟩ else none, s)
  vectoredIo := false

def tapeParty (wire : Bytes) : Party Masked Masked Tape :=
  { maskedSession Tape.reports Tape.got Tape.sent with rconn := 0, wire }

def tapeConn : ConnData := ⟨3, some 0, none⟩

theorem tapeOs_serves (wire : Bytes) : (tapeOs wire).Serves (tapeParty wire) tapeConn.fd where
  reports n s := by
    by_cases empty : (wire.drop s.got.length).take n = []
    · simp only [tapeOs, if_pos empty]
      rfl
    · simp only [tapeOs, if_neg empty]
      rfl
  got n s handed := by
    obtain ⟨rest, whole⟩ : s.got <+: wire := handed
    have next : wire.drop s.got.length = rest := by rw [← whole, List.drop_left]
    by_cases empty : rest.take n = []
    · simp only [tapeOs, tapeParty, maskedSession, next, empty, if_true, List.append_nil, and_true]
      exact ⟨rest, whole⟩
    · simp only [tapeOs, tapeParty, maskedSession, next, if_neg empty, and_true]
      rw [← whole]
      exact (List.prefix_append_right_inj _).mpr (List.take_prefix _ _)
  recv n s := by
    by_cases empty : (wire.drop s.got.length).take n = []
    · simp only [tapeOs, if_pos empty]
      rfl
    · simp only [tapeOs, if_neg empty]
      rfl
  send buf s := by simp [tapeOs, tapeParty, maskedSession, maskedView, Session.Kept]
  writev bufs s := by simp [tapeOs, tapeParty, maskedSession, maskedView, Session.Kept]
  select _ _ _ := ⟨⟨rfl, rfl⟩, rfl⟩
  read _ := ⟨⟨rfl, rfl⟩, rfl⟩
  write _ _ := ⟨⟨rfl, rfl⟩, rfl⟩
  close _ := ⟨⟨rfl, rfl⟩, rfl⟩
  alloc _ _ := ⟨⟨rfl, rfl⟩, rfl⟩

/-- A process with a new connection. -/
def tapeProcess (side : Side) : Process Masked Tape where
  world := { (World.initial {} : World Masked Tape) with conns := [some ⟨{}, side, [], none, none⟩] }
  data := {}

theorem tapeProcess_begins (wire : Bytes) (side : Side) :
    Begins (tapeParty wire) ⟨{}, side, [], none, none⟩ (tapeProcess side) :=
  ⟨⟨rfl, rfl, rfl, rfl, rfl, rfl⟩, rfl, rfl, rfl, rfl, rfl, rfl, rfl, rfl⟩

/-! ### Nothing is left behind -/

/-- Given a round for each byte that is left, `copy_plaintext_to_buffer` returns, has used no memory that it does not
have, and has left nothing behind unless the system refused memory that it asked for. -/
theorem copyPlaintextToBuffer_drains {R : Rustls Conn S} {P : Party Peer Conn S} {os : Os S} {conn : ConnData}
    {g : Record Conn} {p : Process Conn S} (library : Draws R P.toSession) (allocates : os.Allocates P)
    (named : conn.rconn = some P.rconn) (reading : Reading P g p) {fuel : Nat}
    (enough : g.history.decrypted.length - g.history.delivered.length < fuel) :
    ∃ r p', (Code.call (copyPlaintextToBuffer R os fuel conn) : Code (Process Conn S) ρ _) p = (.next r, p') ∧
      Copied P os g p r p' := by
  have spec : wp (copyPlaintextToBuffer R os fuel conn)
      ⟨Copied P os g p, Copied P os g p, fun _ => False, fun _ => False⟩ p :=
    copyPlaintextToBuffer_spec library allocates reading named (.inl enough)
  unfold wp at spec
  unfold Code.call
  rcases ran : copyPlaintextToBuffer R os fuel conn p with ⟨r | r | _ | _ | _, p'⟩ <;> rw [ran] at spec
  · exact ⟨r, p', rfl, spec⟩
  · exact ⟨r, p', rfl, spec⟩
  · exact spec.elim
  · exact spec.elim
  · exact spec.elim

/-- Two bytes have been decrypted. -/
def waiting : Masked where
  unread := { plaintext := [104, 105] }
  taken := [111, 112]
  opened := [104, 105]
  fits := by decide

def waitingProcess : Process Masked Tape where
  world := { (World.initial ⟨[⟨⟨0⟩, 2⟩], [111, 112], []⟩ : World Masked Tape) with
    conns := [some ⟨waiting, .client, [], none, none⟩] }
  data := {}

theorem waitingProcess_reading :
    Reading (tapeParty [111, 112]) ⟨⟨waiting, .client, [], none, none⟩, ⟨[104, 105], [], false, false⟩, []⟩
      waitingProcess where
  converses.receiving := ⟨⟨rfl, rfl⟩, rfl, rfl, by decide, by decide⟩
  converses.follows := ⟨rfl, rfl, by decide⟩
  converses.sending := ⟨rfl, rfl, rfl⟩
  contents := rfl

theorem copyPlaintextToBuffer_drains_waiting :
    ∃ p', (Code.call (copyPlaintextToBuffer maskedLibrary (tapeOs [111, 112]) 3 tapeConn) :
        Code (Process Masked Tape) Unit _) waitingProcess = (.next .ok, p') ∧ p'.data.contents = [104, 105] := by
  obtain ⟨r, p', ran, g, progress, ends⟩ := copyPlaintextToBuffer_drains (ρ := Unit) (maskedLibrary_speaks _ _ _).draws
    (tapeOs_serves [111, 112]).alloc (rfl : tapeConn.rconn = some 0) waitingProcess_reading (by decide : 2 < 3)
  have result : ((Code.call (copyPlaintextToBuffer maskedLibrary (tapeOs [111, 112]) 3 tapeConn) :
      Code (Process Masked Tape) Unit _) waitingProcess).1 = .next .ok := by decide +kernel
  rw [ran] at result
  cases result
  refine ⟨p', ran, ?_⟩
  rw [progress.reading.contents, ends.1, progress.decrypted]

end RustlsFfi.Demo
