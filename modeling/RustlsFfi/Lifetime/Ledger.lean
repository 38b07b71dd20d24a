import RustlsFfi.Model.Rules
import RustlsFfi.Model.Server

/-!
# Who holds what

The references to counted objects that are held outside the heap: by builders, by connections, and
by whoever `loc` stands for, which is the C program and the local variables of a running function.
`Counted P w loc` says that the counts in `w` are the numbers of holders, and carries along any
property `P` of heaps that the operations keep.
-/

namespace RustlsFfi.Lifetime
open Control Counting

variable {Conn S : Type}

def heldByBuilders (clients : List (Option ClientConfigBuilder))
    (servers : List (Option ServerConfigBuilder)) (a : Addr) : Nat :=
  Arena.total (fun b => b.refs.count a) clients + Arena.total (fun b => b.refs.count a) servers

def heldByConnections (conns : List (Option (Connection Conn))) (a : Addr) : Nat :=
  Arena.total (fun c => c.refs.count a) conns

/-- Every reference of a live object in the arena is to a value that owns none. -/
def Leaves {τ : Type} (arcs : Heap) (refs : τ → List Addr) (arena : List (Option τ)) : Prop :=
  ∀ a v, Arena.get arena a = some v → ∀ r ∈ refs v, Leaf ArcValue.refs arcs r

structure Ledger (P : Heap → Prop) (arcs : Heap) (clients : List (Option ClientConfigBuilder))
    (servers : List (Option ServerConfigBuilder)) (conns : List (Option (Connection Conn)))
    (loc : List Addr) : Prop where
  balanced : Balanced ArcValue.refs arcs
    (fun a => loc.count a + heldByBuilders clients servers a + heldByConnections conns a)
  clientLeaves : Leaves arcs ClientConfigBuilder.refs clients
  serverLeaves : Leaves arcs ServerConfigBuilder.refs servers
  property : P arcs

abbrev Counted (P : Heap → Prop) (w : World Conn S) (loc : List Addr) : Prop :=
  Ledger P w.arcs w.clientBuilders w.serverBuilders w.conns loc

theorem Leaves.values {τ : Type} {arcs arcs' : Heap} {refs : τ → List Addr} {arena : List (Option τ)}
    (leaves : Leaves arcs refs arena) (same : ∀ b, valueAt arcs' b = valueAt arcs b) :
    Leaves arcs' refs arena := by
  intro a v live r own
  rw [leaf_iff_of_values same]
  exact leaves a v live r own

theorem Leaves.alloc {τ : Type} {arcs : Heap} {refs : τ → List Addr} {arena : List (Option τ)}
    (leaves : Leaves arcs refs arena) (v : ArcValue) : Leaves (Counting.alloc arcs v) refs arena :=
  fun a u live r own => (leaves a u live r own).alloc v

theorem Leaves.put {τ : Type} {arcs : Heap} {refs : τ → List Addr} {arena : List (Option τ)}
    {u : τ} (leaves : Leaves arcs refs arena) (a : Addr)
    (new : ∀ r ∈ refs u, Leaf ArcValue.refs arcs r) : Leaves arcs refs (Arena.put arena a u) := by
  intro b v live
  rcases Arena.get_put_cases live with rfl | old
  · exact new
  · exact leaves b v old

theorem Leaves.free {τ : Type} {arcs : Heap} {refs : τ → List Addr} {arena : List (Option τ)}
    (leaves : Leaves arcs refs arena) (a : Addr) : Leaves arcs refs (Arena.free arena a) :=
  fun b v live => leaves b v (Arena.get_free_old live)

theorem Leaves.new {τ : Type} {arcs : Heap} {refs : τ → List Addr} {arena : List (Option τ)}
    {u : τ} (leaves : Leaves arcs refs arena) (empty : refs u = []) :
    Leaves arcs refs (Arena.alloc arena u) := by
  intro b v live
  rcases Arena.get_alloc_cases live with rfl | old
  · simp [empty]
  · exact leaves b v old

/-! ### Moving references on the heap -/

section
variable {P : Heap → Prop} {bare : Nat → Prop} {w : World Conn S} {loc : List Addr}

theorem Ledger.perm {arcs : Heap} {clients : List (Option ClientConfigBuilder)}
    {servers : List (Option ServerConfigBuilder)} {conns : List (Option (Connection Conn))}
    {loc' : List Addr} (counted : Ledger P arcs clients servers conns loc) (perm : loc.Perm loc') :
    Ledger P arcs clients servers conns loc' :=
  { counted with balanced := counted.balanced.congr fun a => by rw [perm.count_eq a] }

theorem Ledger.alive {arcs : Heap} {clients : List (Option ClientConfigBuilder)}
    {servers : List (Option ServerConfigBuilder)} {conns : List (Option (Connection Conn))} {a : Addr}
    (counted : Ledger P arcs clients servers conns loc) (member : a ∈ loc) : 0 < strong arcs a := by
  have positive := List.count_pos_iff.mpr member
  rw [counted.balanced.count a]
  omega

theorem counted_retain (stable : Stable ArcValue.refs bare P) {a : Addr} (counted : Counted P w loc)
    (live : 0 < strong w.arcs a) : Counted P (w.retain a) (a :: loc) where
  balanced := (counted.balanced.retain live).congr fun b => by
    dsimp only [World.retain]
    rw [count_cons_singleton a b loc]
    omega
  clientLeaves := counted.clientLeaves.values (valueAt_retain _ _)
  serverLeaves := counted.serverLeaves.values (valueAt_retain _ _)
  property := stable.retain _ _ live counted.property

theorem counted_dropFromRaw (stable : Stable ArcValue.refs bare P) {a : Addr} {T : ArcType}
    (counted : Counted P w (a :: loc))
    (typed : T.hasDropGlue = true ∨ Leaf ArcValue.refs w.arcs a ∧ bare (strong w.arcs a)) :
    Counted P (w.dropFromRaw T a) loc where
  balanced := by
    have outside : Balanced ArcValue.refs w.arcs (fun b => (loc.count b +
        heldByBuilders w.clientBuilders w.serverBuilders b + heldByConnections w.conns b) +
          [a].count b) := by
      refine counted.balanced.congr fun b => ?_
      rw [count_cons_singleton]
      omega
    exact outside.release _ (typed.imp_right And.left)
  clientLeaves := counted.clientLeaves.values (valueAt_release _ _ _ _)
  serverLeaves := counted.serverLeaves.values (valueAt_release _ _ _ _)
  property := by
    unfold World.dropFromRaw
    cases glue : T.hasDropGlue with
    | true => exact stable.release _ _ counted.property
    | false =>
      have last : bare (strong w.arcs a) := by simpa [glue] using (typed.resolve_left (by simp [glue])).2
      exact stable.releaseBare _ _ last counted.property

theorem counted_dropArc (stable : Stable ArcValue.refs bare P) {a : Addr}
    (counted : Counted P w (a :: loc)) : Counted P (w.dropArc a) loc :=
  counted_dropFromRaw (T := .clientConfig) stable counted (.inl rfl)

theorem counted_dropArcs (stable : Stable ArcValue.refs bare P) (l : List Addr)
    (counted : Counted P w (l ++ loc)) : Counted P (w.dropArcs l) loc := by
  induction l generalizing w with
  | nil => exact counted
  | cons a l ih => exact ih (counted_dropArc stable counted)

/-- A new object takes the references it owns out of `loc`, and `loc` gets one to it. -/
theorem counted_alloc (stable : Stable ArcValue.refs bare P) {v : ArcValue}
    (counted : Counted P w (v.refs ++ loc)) (leaves : ∀ r ∈ v.refs, Leaf ArcValue.refs w.arcs r) :
    Counted P { w with arcs := Counting.alloc w.arcs v } (w.arcs.length :: loc) where
  balanced := by
    have outside : Balanced ArcValue.refs w.arcs (fun b => (loc.count b +
        heldByBuilders w.clientBuilders w.serverBuilders b + heldByConnections w.conns b) +
          v.refs.count b) := by
      refine counted.balanced.congr fun b => ?_
      rw [List.count_append]
      omega
    refine (outside.alloc leaves).congr fun b => ?_
    dsimp only
    rw [count_cons_singleton _ _ loc]
    omega
  clientLeaves := counted.clientLeaves.alloc v
  serverLeaves := counted.serverLeaves.alloc v
  property := stable.alloc _ _ counted.property

/-- What an object held before and what it holds after change places. -/
theorem exchange_ends (old loc new : List Addr) : (new ++ loc ++ old).Perm (old ++ loc ++ new) := by
  refine List.perm_append_comm.trans ?_
  rw [List.append_assoc]
  exact List.perm_append_comm.append_left old

/-! ### Moving references into and out of boxed objects

`exchange` says that what `loc` loses is what the object gains, and the other way round. -/

theorem counted_putClientBuilder {b : Addr} {old new : ClientConfigBuilder} {loc' : List Addr}
    (counted : Counted P w loc) (found : Arena.get w.clientBuilders b = some old)
    (leaves : ∀ r ∈ new.refs, Leaf ArcValue.refs w.arcs r)
    (exchange : (loc ++ old.refs).Perm (loc' ++ new.refs)) :
    Counted P (w.putClientBuilder b new) loc' where
  balanced := counted.balanced.congr fun a => by
    have moved := Arena.total_put (fun b => b.refs.count a) new found
    have counts := exchange.count_eq a
    simp only [heldByBuilders, List.count_append, World.putClientBuilder] at moved counts ⊢
    omega
  clientLeaves := counted.clientLeaves.put b leaves
  serverLeaves := counted.serverLeaves
  property := counted.property

theorem counted_putServerBuilder {b : Addr} {old new : ServerConfigBuilder} {loc' : List Addr}
    (counted : Counted P w loc) (found : Arena.get w.serverBuilders b = some old)
    (leaves : ∀ r ∈ new.refs, Leaf ArcValue.refs w.arcs r)
    (exchange : (loc ++ old.refs).Perm (loc' ++ new.refs)) :
    Counted P (w.putServerBuilder b new) loc' where
  balanced := counted.balanced.congr fun a => by
    have moved := Arena.total_put (fun b => b.refs.count a) new found
    have counts := exchange.count_eq a
    simp only [heldByBuilders, List.count_append, World.putServerBuilder] at moved counts ⊢
    omega
  clientLeaves := counted.clientLeaves
  serverLeaves := counted.serverLeaves.put b leaves
  property := counted.property

theorem counted_putConn {a : Addr} {old new : Connection Conn} {loc' : List Addr}
    (counted : Counted P w loc) (found : Arena.get w.conns a = some old)
    (exchange : (loc ++ old.refs).Perm (loc' ++ new.refs)) : Counted P (w.putConn a new) loc' where
  balanced := counted.balanced.congr fun b => by
    have moved := Arena.total_put (fun c => c.refs.count b) new found
    have counts := exchange.count_eq b
    simp only [heldByConnections, List.count_append, World.putConn] at moved counts ⊢
    omega
  clientLeaves := counted.clientLeaves
  serverLeaves := counted.serverLeaves
  property := counted.property

theorem counted_freeClientBuilder {b : Addr} {old : ClientConfigBuilder} (counted : Counted P w loc)
    (found : Arena.get w.clientBuilders b = some old) :
    Counted P { w with clientBuilders := Arena.free w.clientBuilders b } (old.refs ++ loc) where
  balanced := counted.balanced.congr fun a => by
    have moved := Arena.total_free (fun b => b.refs.count a) found
    simp only [heldByBuilders, List.count_append] at moved ⊢
    omega
  clientLeaves := counted.clientLeaves.free b
  serverLeaves := counted.serverLeaves
  property := counted.property

theorem counted_freeServerBuilder {b : Addr} {old : ServerConfigBuilder} (counted : Counted P w loc)
    (found : Arena.get w.serverBuilders b = some old) :
    Counted P { w with serverBuilders := Arena.free w.serverBuilders b } (old.refs ++ loc) where
  balanced := counted.balanced.congr fun a => by
    have moved := Arena.total_free (fun b => b.refs.count a) found
    simp only [heldByBuilders, List.count_append] at moved ⊢
    omega
  clientLeaves := counted.clientLeaves
  serverLeaves := counted.serverLeaves.free b
  property := counted.property

theorem counted_freeConn {a : Addr} {old : Connection Conn} (counted : Counted P w loc)
    (found : Arena.get w.conns a = some old) :
    Counted P { w with conns := Arena.free w.conns a } (old.refs ++ loc) where
  balanced := counted.balanced.congr fun b => by
    have moved := Arena.total_free (fun c => c.refs.count b) found
    simp only [heldByConnections, List.count_append] at moved ⊢
    omega
  clientLeaves := counted.clientLeaves
  serverLeaves := counted.serverLeaves
  property := counted.property

theorem counted_newClientBuilder (new : ClientConfigBuilder) (counted : Counted P w loc)
    (empty : new.refs = []) :
    Counted P { w with clientBuilders := Arena.alloc w.clientBuilders new } loc where
  balanced := counted.balanced.congr fun a => by
    have added := Arena.total_alloc (fun b : ClientConfigBuilder => b.refs.count a) w.clientBuilders new
    simp only [heldByBuilders, empty, List.count_nil] at added ⊢
    omega
  clientLeaves := counted.clientLeaves.new empty
  serverLeaves := counted.serverLeaves
  property := counted.property

theorem counted_newServerBuilder (new : ServerConfigBuilder) (counted : Counted P w loc)
    (empty : new.refs = []) :
    Counted P { w with serverBuilders := Arena.alloc w.serverBuilders new } loc where
  balanced := counted.balanced.congr fun a => by
    have added := Arena.total_alloc (fun b : ServerConfigBuilder => b.refs.count a) w.serverBuilders new
    simp only [heldByBuilders, empty, List.count_nil] at added ⊢
    omega
  clientLeaves := counted.clientLeaves
  serverLeaves := counted.serverLeaves.new empty
  property := counted.property

theorem counted_newConn (new : Connection Conn) (counted : Counted P w (new.refs ++ loc)) :
    Counted P { w with conns := Arena.alloc w.conns new } loc where
  balanced := counted.balanced.congr fun b => by
    have added := Arena.total_alloc (fun c => c.refs.count b) w.conns new
    simp only [heldByConnections, List.count_append] at added ⊢
    omega
  clientLeaves := counted.clientLeaves
  serverLeaves := counted.serverLeaves
  property := counted.property

end

end RustlsFfi.Lifetime
