import Mathlib.Data.List.ReduceOption
import RustlsFfi.Base.Checks
import RustlsFfi.Model.Rules

/-!
# Custom suites and versions

The two `_new_custom` functions check the caller's suites and versions in the same order and start
their builders from the same choice.
-/

namespace RustlsFfi

/-- `SupportedCipherSuite::version`. -/
def SupportedCipherSuite.version : SupportedCipherSuite → SupportedProtocolVersion
  | .tls12 _ => .TLS12
  | .tls13 _ => .TLS13

def SupportedProtocolVersion.number : SupportedProtocolVersion → UInt16
  | .TLS12 => 0x0303
  | .TLS13 => 0x0304

end RustlsFfi

namespace RustlsFfi.CustomSuites
open Control Checks

variable {Conn S : Type}

/-- `with_protocol_versions` accepts a choice with a suite of an enabled version, and no other. -/
def ChecksUsable (R : Rustls Conn S) : Prop :=
  ∀ suites versions, R.withProtocolVersions suites versions =
    if suites.any (fun s => versions.contains s.version) then .ok () else .err ()

/-! ### The checks, in their order -/

def entryChecks (entry : Option SupportedCipherSuite) : List (Bool × RustlsResult) :=
  [(entry.isSome, .nullParameter), (entry.all (allCipherSuites.contains ·), .invalidParameter)]

/-- A listed suite belongs to a version that occurs among the numbers. -/
def usable (entries : List (Option SupportedCipherSuite)) (numbers : List UInt16) : Bool :=
  entries.any fun entry => entry.any fun s => numbers.contains s.version.number

def checks (entries : Option (List (Option SupportedCipherSuite))) (numbers : Option (List UInt16)) :
    List (Bool × RustlsResult) :=
  (entries.isSome, .nullParameter) :: (entries.getD []).flatMap entryChecks ++
    [(numbers.isSome, .nullParameter), (usable (entries.getD []) (numbers.getD []), .invalidParameter)]

/-- The base of a builder over these entries and numbers. -/
def chosen (entries : Option (List (Option SupportedCipherSuite))) (numbers : Option (List UInt16)) : ConfigBase :=
  ⟨(entries.getD []).reduceOption, (numbers.getD []).filterMap protocolVersion?⟩

variable {w : World Conn S}

theorem protocolVersion?_eq_some {n : UInt16} {v : SupportedProtocolVersion} :
    protocolVersion? n = some v ↔ n = v.number := by
  unfold protocolVersion?
  constructor
  · split
    · rintro ⟨⟩
      assumption
    · split
      · rintro ⟨⟩
        assumption
      · rintro ⟨⟩
  · rintro rfl
    cases v <;> rfl

theorem mem_versions {numbers : List UInt16} {v : SupportedProtocolVersion} :
    v ∈ numbers.filterMap protocolVersion? ↔ v.number ∈ numbers := by
  simp [List.mem_filterMap, protocolVersion?_eq_some]

theorem usable_eq (entries : List (Option SupportedCipherSuite)) (numbers : List UInt16) :
    entries.reduceOption.any (fun s => (numbers.filterMap protocolVersion?).contains s.version) =
      usable entries numbers := by
  rw [Bool.eq_iff_iff]
  simp only [usable, List.any_eq_true, List.contains_iff_mem, mem_versions, List.reduceOption_mem_iff,
    Option.any_eq_true]
  constructor
  · rintro ⟨s, member, listed⟩
    exact ⟨some s, member, s, rfl, listed⟩
  · rintro ⟨_, member, s, rfl, listed⟩
    exact ⟨s, member, listed⟩

theorem firstFailure_entry {entry : Option SupportedCipherSuite} :
    firstFailure (entryChecks entry) = none ↔ ∃ s ∈ allCipherSuites, entry = some s := by
  cases entry with
  | none => simp [entryChecks]
  | some s => simp [entryChecks]

/-! ### What the code does -/

theorem collectSuites_checks (entries : List (Option SupportedCipherSuite)) (csVec : List SupportedCipherSuite) :
    wp (collectSuites entries csVec)
      { next := fun suites w' => w' = w ∧ firstFailure (entries.flatMap entryChecks) = none ∧
          suites = csVec ++ entries.reduceOption
        ret := fun r w' => w' = w ∧ firstFailure (entries.flatMap entryChecks) = some r
        rejected := fun r w' => w' = w ∧ firstFailure (entries.flatMap entryChecks) = some r
        panic := fun _ => False
        fault := fun _ _ => False } w := by
  induction entries generalizing csVec with
  | nil => simp [collectSuites]
  | cons entry rest ih =>
    simp only [collectSuites, wp_bind, wp_tryRef, wp_someOr, find_suite, Post.onNext, List.flatMap_cons]
    refine ⟨?_, fun s given => ⟨fun known found => ?_, fun unknown => ?_⟩⟩
    · rintro rfl
      simp [entryChecks]
    · subst given
      obtain ⟨member, rfl⟩ : s ∈ allCipherSuites ∧ s = known := by simpa using found
      have passed : firstFailure (entryChecks (some s) ++ rest.flatMap entryChecks) =
          firstFailure (rest.flatMap entryChecks) := by simp [entryChecks, member]
      rw [passed]
      simpa using ih (csVec ++ [s])
    · subst given
      have missing : s ∉ allCipherSuites := by simpa using unknown
      simp [entryChecks, missing]

theorem newCustomBase_checks {R : Rustls Conn S} (library : ChecksUsable R)
    {cipherSuites : Option (List (Option SupportedCipherSuite))} {cipherSuitesLen : Nat}
    {tlsVersions : Option (List UInt16)} {tlsVersionsLen : Nat}
    (valid : ∀ l, cipherSuites = some l → cipherSuitesLen ≤ l.length)
    (valid' : ∀ l, tlsVersions = some l → tlsVersionsLen ≤ l.length) :
    wp (newCustomBase R cipherSuites cipherSuitesLen tlsVersions tlsVersionsLen)
      (let entries := cipherSuites.map (·.take cipherSuitesLen)
       let numbers := tlsVersions.map (·.take tlsVersionsLen)
       { next := fun base w' => w' = w ∧ firstFailure (checks entries numbers) = none ∧
          base = chosen entries numbers
         ret := fun r w' => w' = w ∧ firstFailure (checks entries numbers) = some r
         rejected := fun r w' => w' = w ∧ firstFailure (checks entries numbers) = some r
         panic := fun _ => False
         fault := fun _ _ => False }) w := by
  simp only [newCustomBase, wp_bind, wp_trySlice, wp_callPure, wp_okOr, wp_pure, Post.onNext]
  refine ⟨?_, fun suites given => ⟨fun _ => ?_, fun past => absurd (valid suites given) (Nat.not_le.mpr past)⟩⟩
  · rintro rfl
    simp [checks]
  · subst given
    refine wp_mono (collectSuites_checks (suites.take cipherSuitesLen) []) ?_ ?_ ?_ (fun _ never => never)
      (fun _ _ never => never)
    · rintro csVec w' ⟨rfl, passed, rfl⟩
      cases tlsVersions with
      | none => simp [checks, firstFailure_append, passed]
      | some versions =>
        have accepts := library (suites.take cipherSuitesLen).reduceOption
          ((versions.take tlsVersionsLen).filterMap protocolVersion?)
        rw [usable_eq] at accepts
        have within := valid' versions rfl
        cases usable : usable (suites.take cipherSuitesLen) (versions.take tlsVersionsLen) <;>
          simp_all [checks, chosen, firstFailure_append]
    · rintro r w' ⟨rfl, failed⟩
      simp [checks, firstFailure_append, failed]
    · rintro r w' ⟨rfl, failed⟩
      simp [checks, firstFailure_append, failed]

/-- Both functions fail in the same way and leave the state alone, or store a new builder over the
chosen suites and versions. -/
theorem newCustom_run {R : Rustls Conn S} (library : ChecksUsable R)
    {cipherSuites : Option (List (Option SupportedCipherSuite))} {cipherSuitesLen : Nat}
    {tlsVersions : Option (List UInt16)} {tlsVersionsLen : Nat}
    (valid : ∀ l, cipherSuites = some l → cipherSuitesLen ≤ l.length)
    (valid' : ∀ l, tlsVersions = some l → tlsVersionsLen ≤ l.length) (out : Addr) (w : World Conn S) :
    let entries := cipherSuites.map (·.take cipherSuitesLen)
    let numbers := tlsVersions.map (·.take tlsVersionsLen)
    let client := rustlsClientConfigBuilderNewCustom R cipherSuites cipherSuitesLen tlsVersions tlsVersionsLen (some out) w
    let server := rustlsServerConfigBuilderNewCustom R cipherSuites cipherSuitesLen tlsVersions tlsVersionsLen (some out) w
    (∃ r o, firstFailure (checks entries numbers) = some r ∧ o.value? = some r ∧ client = (o, w) ∧ server = (o, w)) ∨
    firstFailure (checks entries numbers) = none ∧
      client = (.returned .ok, { w with
        clientBuilders := Arena.alloc w.clientBuilders (.new (chosen entries numbers))
        cells.ptr := Function.update w.cells.ptr out (some w.clientBuilders.length) }) ∧
      server = (.returned .ok, { w with
        serverBuilders := Arena.alloc w.serverBuilders (.new (chosen entries numbers))
        cells.ptr := Function.update w.cells.ptr out (some w.serverBuilders.length) }) := by
  intro entries numbers client server
  have spec := newCustomBase_checks library valid valid' (w := w)
  unfold wp at spec
  rcases run : newCustomBase R cipherSuites cipherSuitesLen tlsVersions tlsVersionsLen w with ⟨flow, w'⟩
  rw [run] at spec
  cases flow with
  | next base =>
    obtain ⟨rfl, passed, rfl⟩ := spec
    refine .inr ⟨passed, ?_, ?_⟩
    · simp [client, rustlsClientConfigBuilderNewCustom, configBuilderNewCustom, ffiPanicBoundary, bind_run, run,
        clientBuilderToMutPtr, writePtr, chosen, entries, numbers]
    · simp [server, rustlsServerConfigBuilderNewCustom, configBuilderNewCustom, ffiPanicBoundary, bind_run, run,
        serverBuilderToMutPtr, writePtr, chosen, entries, numbers]
  | ret r =>
    obtain ⟨rfl, failed⟩ := spec
    refine .inl ⟨r, .returned r, failed, rfl, ?_, ?_⟩
    · simp [client, rustlsClientConfigBuilderNewCustom, configBuilderNewCustom, ffiPanicBoundary, bind_run, run]
    · simp [server, rustlsServerConfigBuilderNewCustom, configBuilderNewCustom, ffiPanicBoundary, bind_run, run]
  | rejected r =>
    obtain ⟨rfl, failed⟩ := spec
    refine .inl ⟨r, .rejected r, failed, rfl, ?_, ?_⟩
    · simp [client, rustlsClientConfigBuilderNewCustom, configBuilderNewCustom, ffiPanicBoundary, bind_run, run]
    · simp [server, rustlsServerConfigBuilderNewCustom, configBuilderNewCustom, ffiPanicBoundary, bind_run, run]
  | panic => exact spec.elim
  | fault e => exact spec.elim

/-! ### What passes the checks -/

theorem firstFailure_ne_ok {entries : Option (List (Option SupportedCipherSuite))}
    {numbers : Option (List UInt16)} {r : RustlsResult} (failed : firstFailure (checks entries numbers) = some r) :
    r ≠ .ok := by
  obtain ⟨⟨passes, code⟩, found, rfl⟩ := Option.map_eq_some_iff.mp failed
  have member := List.mem_of_find?_eq_some found
  rintro rfl
  simp [checks, entryChecks] at member

theorem checks_pass_iff {entries : Option (List (Option SupportedCipherSuite))} {numbers : Option (List UInt16)} :
    firstFailure (checks entries numbers) = none ↔
      ∃ (suites : List SupportedCipherSuite) (versions : List UInt16),
        entries = some (suites.map some) ∧ numbers = some versions ∧
        (∀ s ∈ suites, s ∈ allCipherSuites) ∧ ∃ s ∈ suites, s.version.number ∈ versions := by
  cases entries with
  | none => simp [checks]
  | some entries =>
    cases numbers with
    | none => simp [checks, firstFailure_append]
    | some numbers =>
      have passes : firstFailure (checks (some entries) (some numbers)) = none ↔
          (∀ entry ∈ entries, ∃ s ∈ allCipherSuites, entry = some s) ∧ usable entries numbers = true := by
        simp [checks, firstFailure_append, firstFailure_flatMap_eq_none, firstFailure_entry]
      rw [passes]
      constructor
      · rintro ⟨known, good⟩
        have present : ∀ entry ∈ entries, entry ≠ none := by
          rintro entry member rfl
          simpa using known none member
        have same := Arena.map_some_reduceOption present
        refine ⟨entries.reduceOption, numbers, congrArg some same.symm, rfl, fun s member => ?_, ?_⟩
        · obtain ⟨t, inside, equal⟩ := known (some s) (List.reduceOption_mem_iff.mp member)
          exact Option.some.inj equal ▸ inside
        · rw [← same] at good
          simpa [usable] using good
      · rintro ⟨suites, versions, given, given', known, s, member, listed⟩
        obtain rfl := Option.some.inj given
        obtain rfl := Option.some.inj given'
        refine ⟨?_, ?_⟩
        · rintro entry inside
          obtain ⟨t, member, rfl⟩ := List.mem_map.mp inside
          exact ⟨t, known t member, rfl⟩
        · simp only [usable, List.any_eq_true]
          exact ⟨some s, List.mem_map_of_mem member, by simpa using listed⟩

/-- For arrays of any length and content the two functions return the same code, that of the first
check that fails. They succeed exactly if every entry is a known suite and one of them belongs to a
listed version. Their builders then have the entries as they are listed, and the listed versions; after
a failure nothing has changed. -/
theorem custom_builders_agree {R : Rustls Conn S} (library : ChecksUsable R)
    (cipherSuites : Option (List (Option SupportedCipherSuite))) (cipherSuitesLen : Nat)
    (tlsVersions : Option (List UInt16)) (tlsVersionsLen : Nat) (out : Addr) (w : World Conn S)
    (valid : ∀ l, cipherSuites = some l → cipherSuitesLen ≤ l.length)
    (valid' : ∀ l, tlsVersions = some l → tlsVersionsLen ≤ l.length) :
    let entries := cipherSuites.map (·.take cipherSuitesLen)
    let numbers := tlsVersions.map (·.take tlsVersionsLen)
    let client := rustlsClientConfigBuilderNewCustom R cipherSuites cipherSuitesLen tlsVersions tlsVersionsLen (some out) w
    let server := rustlsServerConfigBuilderNewCustom R cipherSuites cipherSuitesLen tlsVersions tlsVersionsLen (some out) w
    client.1 = server.1 ∧
    client.1.value? = some ((firstFailure (checks entries numbers)).getD .ok) ∧
    (client.1.value? = some .ok ↔ ∃ (suites : List SupportedCipherSuite) (versions : List UInt16),
      entries = some (suites.map some) ∧ numbers = some versions ∧
      (∀ s ∈ suites, s ∈ allCipherSuites) ∧ ∃ s ∈ suites, s.version.number ∈ versions) ∧
    (client.1.value? = some .ok → ∃ c clientBuilder s serverBuilder,
      client.2.cells.ptr out = some c ∧ Arena.get client.2.clientBuilders c = some clientBuilder ∧
      server.2.cells.ptr out = some s ∧ Arena.get server.2.serverBuilders s = some serverBuilder ∧
      clientBuilder.base = serverBuilder.base ∧ entries = some (clientBuilder.base.suites.map some) ∧
      ∀ v : SupportedProtocolVersion, v ∈ clientBuilder.base.versions ↔ v.number ∈ numbers.getD []) ∧
    (client.1.value? ≠ some .ok → client.2 = w ∧ server.2 = w) := by
  intro entries numbers client server
  rw [← checks_pass_iff]
  rcases newCustom_run library valid valid' out w with
    ⟨r, o, failed, code, (hc : client = _), (hs : server = _)⟩ | ⟨passed, (hc : client = _), (hs : server = _)⟩
  · have bad : some r ≠ some RustlsResult.ok := fun same => firstFailure_ne_ok failed (Option.some.inj same)
    rw [hc, hs, code, failed]
    exact ⟨rfl, rfl, ⟨fun ok => absurd ok bad, fun passed => nomatch passed⟩, fun ok => absurd ok bad,
      fun _ => ⟨rfl, rfl⟩⟩
  · obtain ⟨suites, versions, given, -⟩ := checks_pass_iff.mp passed
    rw [hc, hs, passed]
    refine ⟨rfl, rfl, ⟨fun _ => rfl, fun _ => rfl⟩, fun _ => ?_, fun failed => absurd rfl failed⟩
    refine ⟨_, _, _, _, Function.update_self _ _ _, Arena.get_alloc_new _ _, Function.update_self _ _ _,
      Arena.get_alloc_new _ _, rfl, ?_, fun v => mem_versions⟩
    have present : ∀ entry ∈ suites.map some, entry ≠ none := by simp
    change entries = some ((entries.getD []).reduceOption.map some)
    rw [show entries = some (suites.map some) from given, Option.getD_some, Arena.map_some_reduceOption present]

/-- rustls as far as the choice of suites and versions goes. -/
def choosing : Rustls Unit Unit where
  __ := Rustls.inert ()
  withProtocolVersions suites versions :=
    if suites.any (fun s => versions.contains s.version) then .ok () else .err ()

/-- A suite of TLS 1.3 listed twice, with TLS 1.3 and a number that is no version. -/
theorem custom_builders_agree_tls13 :
    (rustlsClientConfigBuilderNewCustom choosing (some [some (.tls13 0x1301), some (.tls13 0x1301)]) 2
      (some [0x0304, 0x9999]) 2 (some 0) (World.initial ())).1 = .returned .ok ∧
    (rustlsServerConfigBuilderNewCustom choosing (some [some (.tls13 0x1301), some (.tls13 0x1301)]) 2
      (some [0x0304, 0x9999]) 2 (some 0) (World.initial ())).1 = .returned .ok := by
  obtain ⟨same, -⟩ := custom_builders_agree (R := choosing) (fun _ _ => rfl)
    (some [some (.tls13 0x1301), some (.tls13 0x1301)]) 2 (some [0x0304, 0x9999]) 2 0 (World.initial ())
    (by simp) (by simp)
  have client : (rustlsClientConfigBuilderNewCustom choosing (some [some (.tls13 0x1301), some (.tls13 0x1301)]) 2
      (some [0x0304, 0x9999]) 2 (some 0) (World.initial ())).1 = .returned .ok := by decide
  exact ⟨client, same ▸ client⟩

end RustlsFfi.CustomSuites
