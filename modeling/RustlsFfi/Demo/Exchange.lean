import RustlsFfi.Demo.Client
import RustlsFfi.Demo.Server

/-!
# The two programs together

The client of `tests/client.c` against the server of `tests/server.c`, each with its own library, system and speed:
what the client prints is the response, and with this server it never reads out of bounds.
-/

namespace RustlsFfi.Demo.Exchange
open Code Memory Plaintext EndToEnd Duplex Client Server

/-! ### The response as the client parses it -/

theorem responseHead_length : responseHead.length = 42 := by decide +kernel

/-- A carriage return in the response stands in its head. -/
theorem response_return {i : Nat} (stands : response[i]? = some 13) : i = 15 ∨ i = 38 ∨ i = 40 := by
  have head : ∀ i < 42, responseHead[i]? = some 13 → i = 15 ∨ i = 38 ∨ i = 40 := by decide +kernel
  have length := responseHead_length
  rw [response, List.append_assoc] at stands
  by_cases inside : i < 42
  · rw [List.getElem?_append_left (by omega)] at stands
    exact head i inside stands
  · rw [List.getElem?_append_right (by omega)] at stands
    have member := List.mem_of_getElem? stands
    rcases List.mem_append.mp member with body | last
    · cases (List.mem_replicate.mp body).2
    · cases List.mem_singleton.mp last

/-- Where the client has read it, memory holds the response. -/
theorem byte_of_initial {vec : ByteVec} (initial : vec.contents <+: response) {i : Nat} (inside : i < vec.len) :
    vec.data[i]? = response[i]? := by
  obtain ⟨rest, whole⟩ := initial
  have length := vec.contents_length
  rw [← whole, List.getElem?_append_left (by omega), ByteVec.contents, List.getElem?_take_of_lt inside]

/-- The bytes up to the end of the line with the Content-Length. -/
def known : Bytes := responseHead.take 39

theorem known_of_initial {vec : ByteVec} (initial : vec.contents <+: response) (long : 39 ≤ vec.len) :
    ∃ rest, vec.data = known ++ rest := by
  have first : vec.contents.take 39 = known := by
    have length := vec.contents_length
    obtain ⟨rest, whole⟩ := initial
    have shorter : (vec.contents ++ rest).take 39 = vec.contents.take 39 := List.take_append_of_le_length (by omega)
    rw [← shorter, whole, response, List.append_assoc,
      List.take_append_of_le_length (by rw [responseHead_length]; omega), known]
  refine ⟨vec.data.drop 39, ?_⟩
  rw [← first, ByteVec.contents, List.take_take, Nat.min_eq_left long, List.take_append_drop]

theorem blankLine_of_bytes {mem : Bytes} {p : Nat} (first : mem[p]? = some 13) (second : mem[p + 1]? = some 10)
    (third : mem[p + 2]? = some 13) (fourth : mem[p + 3]? = some 10) : At mem blankLine p := by
  have drop : ∀ {i b}, mem[i]? = some b → mem.drop i = b :: mem.drop (i + 1) := fun here => by
    obtain ⟨inside, rfl⟩ := List.getElem?_eq_some_iff.mp here
    exact List.drop_eq_getElem_cons inside
  refine ⟨mem.drop (p + 4), ?_⟩
  rw [drop first, drop second, drop third, drop fourth]
  rfl

/-- Wherever the response was cut off when the client searched it, the header that was found is its own. -/
theorem found_own {vec : ByteVec} (roomy : vec.Roomy) (initial : vec.contents <+: response) {b value n : Nat}
    (found : bodyBeginning vec = .ok (some b))
    (given : getFirstHeaderValue vec.data 0 b (contentLengthName ++ [0]) 14 = .ok (some (value, n))) :
    b = 42 ∧ value = 32 ∧ n = 6 ∧ ∃ rest, vec.data = known ++ rest := by
  rcases bodyBeginning_spec roomy with ⟨b', found', four, bound, first⟩ | ⟨missing, -⟩
  · obtain rfl : b = b' := by
      rw [found] at found'
      exact Option.some.inj (Except.ok.inj found')
    rcases getFirstHeaderValue_spec (headerBlock roomy four bound first) (by decide : 0 ∉ contentLengthName) with
      ⟨s, q, given', line, ends, early⟩ | ⟨nothing, -⟩
    · have size : contentLengthName.length = 14 := rfl
      rw [size] at given' ends
      obtain ⟨rfl, rfl⟩ : s + 14 + 1 = value ∧ q - (s + 14 + 1) = n := by
        have same := given'.symm.trans given
        simpa using same
      -- The carriage returns of the blank line, of the line before the header and of its own line.
      have returns : ∀ i, i ≤ b - 4 → vec.data[i]? = some 13 → i = 15 ∨ i = 38 ∨ i = 40 := by
        intro i le stands
        rw [byte_of_initial initial (by omega)] at stands
        exact response_return stands
      have blank := blankLine_bytes first.here
      have place := returns (b - 4) (Nat.le_refl _) blank.1
      have start := line.here.start
      have after := ends.ge
      have line := returns (s - 2) (by omega) (crlf_bytes line.here.line).1
      have stop := returns q (by omega) (crlf_bytes ends.here).1
      have second : b - 4 ≠ 40 := by
        intro late
        rw [late] at blank first
        refine first.before 38 (by omega) (by omega) ?_
        refine blankLine_of_bytes ?_ ?_ blank.1 blank.2.1
        · rw [byte_of_initial initial (by omega)]
          decide +kernel
        · rw [byte_of_initial initial (by omega)]
          decide +kernel
      exact ⟨by omega, by omega, by omega, known_of_initial initial (by omega)⟩
    · exact nomatch nothing.symm.trans given
  · exact nomatch missing.symm.trans found

theorem strtoul_known (rest : Bytes) : strtoul (known ++ rest) 32 = .ok (10000, 38) := by
  have bytes : known = [72, 84, 84, 80, 47, 49, 46, 49, 32, 50, 48, 48, 32, 79, 75, 13, 10, 67, 111, 110, 116, 101, 110, 116,
    45, 76, 101, 110, 103, 116, 104, 58, 32, 49, 48, 48, 48, 48, 13] := by decide +kernel
  rw [bytes]
  rfl

/-- The lengths that the client can take from the response. -/
theorem declares_response {vec : ByteVec} {v : Lengths} (roomy : vec.Roomy) (initial : vec.contents <+: response)
    (declares : Declares vec v) : v = ⟨42, 10000⟩ := by
  obtain ⟨found, value, n, valueEnd, given, parsed⟩ := declares
  obtain ⟨headers, rfl, -, rest, data⟩ := found_own roomy initial found given
  rw [data, strtoul_known] at parsed
  obtain ⟨length, -⟩ : 10000 = v.contentLength ∧ 38 = valueEnd := by simpa using parsed
  cases v
  simp_all

/-- Its Content-Length is not blank. -/
theorem not_blankLength {vec : ByteVec} (roomy : vec.Roomy) (initial : vec.contents <+: response) : ¬ BlankLength vec := by
  rintro ⟨b, value, n, found, given, blank⟩
  obtain ⟨-, rfl, rfl, rest, data⟩ := found_own roomy initial found given
  have one : vec.data[33]? = some 49 := by
    rw [data, List.getElem?_append_left (by decide +kernel)]
    decide +kernel
  exact absurd (blank 33 49 (by omega) (by omega) one) (by decide)

/-! ### Both ends -/

variable {C₁ C₂ S₁ S₂ : Type}

/-- What one end has decrypted is the beginning of what the other was told it has written. -/
theorem decrypted_initial {P₁ : Party C₂ C₁ S₁} {P₂ : Party C₁ C₂ S₂} {R₂ : Rustls C₂ S₂} (seals : Seals R₂ P₂.outgoing)
    (joined : P₁.incoming = P₂.outgoing) {g₁ : Record C₁} {g₂ : Record C₂} {w₁ : World C₁ S₁} {w₂ : World C₂ S₂}
    (receiver : Converses P₁.toSession P₁.wire P₁.rconn g₁ w₁) (sender : Converses P₂.toSession P₂.wire P₂.rconn g₂ w₂)
    (carried : P₁.wire <+: P₂.sent w₂.app) : g₁.history.decrypted <+: g₂.written := by
  have taken : P₁.got w₁.app <+: P₂.outgoing.produced g₂.conn.conn := by
    rw [sender.sending.produced]
    exact (receiver.receiving.carried.trans carried).trans (List.prefix_append _ _)
  have opened := receiver.receiving.opened
  rw [receiver.receiving.received, ← receiver.receiving.decrypted, joined] at opened
  rw [← sender.sending.accepted]
  exact (opened.trans (P₂.outgoing.opens_mono taken)).trans (seals.sealed g₂.conn.conn)

section
variable {R₁ : Rustls C₁ S₁} {P₁ : Party C₂ C₁ S₁} {os₁ : Os S₁} {conn₁ : ConnData} {p₁ : Process C₁ S₁}
  {c₁ : Connection C₁} {R₂ : Rustls C₂ S₂} {P₂ : Party C₁ C₂ S₂} {os₂ : Os S₂} {conn₂ : ConnData} {p₂ : Process C₂ S₂}
  {c₂ : Connection C₂}

theorem server_answers (library : Speaks R₂ P₂.toSession) (serves : os₂.Serves P₂ conn₂.fd)
    (named : conn₂.rconn = some P₂.rconn) (begins : Begins P₂ c₂ p₂) (fuel : Nat) :
    ∃ g, Converses P₂.toSession P₂.wire P₂.rconn g (handleConn R₂ os₂ fuel conn₂ p₂).2.world ∧ g.written <+: response := by
  have spec := handleConn_spec library serves named begins fuel
  have answers : Answers P₂ (Looks R₂ os₂ fuel conn₂ p₂) (handleConn R₂ os₂ fuel conn₂ p₂).2 := by
    unfold wp at spec
    rcases ran : handleConn R₂ os₂ fuel conn₂ p₂ with ⟨_ | _ | _ | _ | _, p'⟩ <;> rw [ran] at spec
    · exact spec
    · exact spec.elim
    · exact spec.elim
    · exact spec.elim
    · exact spec
  obtain ⟨g, converses, nothing | ⟨initial, -⟩⟩ := answers
  · exact ⟨g, converses, nothing ▸ List.nil_prefix⟩
  · exact ⟨g, converses, initial⟩

end

theorem Talking.delivered_initial {P : Party C₂ C₁ S₁} {g : Record C₁} {p : Process C₁ S₁} (talking : Talking P g p) :
    g.history.delivered <+: g.history.decrypted := talking.converses.receiving.balanced.initial

/-- Where the client stops reading the response, it has all of the declared length, or its own connection was closed or has
nothing left to do. -/
theorem complete_response {R : Rustls C₁ S₁} {P : Party C₂ C₁ S₁} {Just : Process C₁ S₁ → Prop} {v : Lengths}
    {g : Record C₁} {p : Process C₁ S₁} (talking : Talking P g p) (complete : Complete R Just v g)
    (initial : g.history.decrypted <+: response) :
    g.history.finished = true ∨ Idle R g.conn.conn ∨ responseHead.length + bodySize ≤ g.history.decrypted.length := by
  rcases complete with finished | ⟨some, found, enough⟩ | idle
  · exact .inl finished
  · have delivered := Talking.delivered_initial talking
    obtain ⟨vec, roomy, contents, declares⟩ := found.declares some
    obtain rfl := declares_response roomy ((contents.trans delivered).trans initial) declares
    refine .inr (.inr ?_)
    rw [responseHead_length]
    exact Nat.le_trans enough delivered.length_le
  · exact .inr (.inl idle)

/-- The client against the server. What has arrived at either end was sent by the other, and nothing else is assumed of
the order of their steps. Then the server has read a beginning of the client's request, the client's reads stay in bounds
and its calls are defined, and it has printed a beginning of the response. If it exits with 0, it printed what it had got
when it stopped reading. That is the head of the response and a body of the declared length, unless its connection had been
closed or was idle then. -/
theorem client_prints_response {R₁ : Rustls C₁ S₁} {P₁ : Party C₂ C₁ S₁} {os₁ : Os S₁} {conn₁ : ConnData}
    {p₁ : Process C₁ S₁} {c₁ : Connection C₁} {R₂ : Rustls C₂ S₂} {P₂ : Party C₁ C₂ S₂} {os₂ : Os S₂} {conn₂ : ConnData}
    {p₂ : Process C₂ S₂} {c₂ : Connection C₂} (library₁ : Speaks R₁ P₁.toSession) (library₂ : Speaks R₂ P₂.toSession)
    (serves₁ : os₁.Serves P₁ conn₁.fd) (serves₂ : os₂.Serves P₂ conn₂.fd) (named₁ : conn₁.rconn = some P₁.rconn)
    (named₂ : conn₂.rconn = some P₂.rconn) (begins₁ : Begins P₁ c₁ p₁) (begins₂ : Begins P₂ c₂ p₂)
    (requests : P₂.incoming = P₁.outgoing) (responses : P₁.incoming = P₂.outgoing) (fuel₁ fuel₂ : Nat)
    (hostname path : CString) :
    let client := sendRequestAndReadResponse R₁ os₁ fuel₁ conn₁ hostname path p₁
    let server := handleConn R₂ os₂ fuel₂ conn₂ p₂
    P₁.wire <+: P₂.sent server.2.world.app → P₂.wire <+: P₁.sent client.2.world.app →
      (∃ c, Arena.get server.2.world.conns P₂.rconn = some c ∧ P₂.incoming.opened c.conn <+: request hostname path) ∧
      client.1 ≠ .fault ∧ client.1 ≠ .misuse ∧
      ∃ printed, client.2.stdout = p₁.stdout ++ printed ∧ printed <+: response ∧
        (client.1 = .next 0 → ∃ v q g g', talk R₁ os₁ fuel₁ conn₁ hostname path p₁ = (.next v, q) ∧ Talking P₁ g q ∧
          g'.history.decrypted = g.history.decrypted ∧ Printed R₁ P₁ os₁ fuel₁ conn₁ p₁.stdout q g' client.2 ∧
          g.history.decrypted <+: response ∧
          (g.history.finished = true ∨ Idle R₁ g.conn.conn ∨
            responseHead.length + bodySize ≤ g.history.decrypted.length)) := by
  intro client server carried₁ carried₂
  obtain ⟨g₂, answering, written⟩ := server_answers library₂ serves₂ named₂ begins₂ fuel₂
  have got : ∀ {g p}, Reading P₁ g p → g.history.decrypted <+: response := fun reading =>
    (decrypted_initial library₂.seals responses reading.converses answering carried₁).trans written
  have asked : ∀ {g}, Converses P₁.toSession P₁.wire P₁.rconn g client.2.world → g.written <+: request hostname path →
      ∃ c, Arena.get server.2.world.conns P₂.rconn = some c ∧ P₂.incoming.opened c.conn <+: request hostname path := by
    intro g asking initial
    refine ⟨g₂.conn, answering.live, ?_⟩
    rw [← answering.receiving.decrypted]
    exact (decrypted_initial library₁.seals requests answering asking carried₂).trans initial
  have spec : Post.holds _ client := sendRequestAndReadResponse_spec library₁ serves₁ named₁ begins₁ fuel₁ hostname path
  have unprinted : ∀ {p}, client.2 = p → Unprinted P₁ (request hostname path) p₁.stdout p →
      (∃ c, Arena.get server.2.world.conns P₂.rconn = some c ∧ P₂.incoming.opened c.conn <+: request hostname path) ∧
      client.2.stdout = p₁.stdout ++ [] := by
    rintro p rfl ⟨same, written, initial, g, reading, told⟩
    exact ⟨asked reading.converses (told ▸ initial), by rw [same, List.append_nil]⟩
  clear_value client
  rcases client with ⟨r | r | _ | _ | _, p'⟩
  · rcases spec with ⟨rfl, v, q, g, g', talked, talking, told, complete, decrypted, written, result⟩ | ⟨rfl, before⟩
    · obtain ⟨_, _, _, -, -, -, printed⟩ := result.printed
      have text := got result.toReading
      refine ⟨asked result.converses (by rw [written, told]), nofun, nofun, _, printed,
        (List.take_prefix _ _).trans text, fun _ => ?_⟩
      rw [decrypted] at text
      exact ⟨v, q, g, g', talked, talking, decrypted, result, text, complete_response talking complete text⟩
    · obtain ⟨read, same⟩ := unprinted rfl before
      exact ⟨read, nofun, nofun, [], same, List.nil_prefix, nofun⟩
  · exact spec.elim
  · obtain ⟨⟨blank, roomy, g, reading, -⟩, -⟩ := spec
    refine absurd blank (not_blankLength roomy ?_)
    rw [reading.contents]
    exact reading.converses.receiving.balanced.initial.trans (got reading)
  · exact spec.elim
  · obtain ⟨read, same⟩ := unprinted rfl spec
    exact ⟨read, nofun, nofun, [], same, List.nil_prefix, nofun⟩

def askingRun : Exit Int Int × Process Masked Tape :=
  sendRequestAndReadResponse maskedLibrary (tapeOs []) 3 tapeConn localhost root (tapeProcess .client)

/-- The client has sent its request, of which the first line has arrived. -/
theorem client_prints_response_asking :
    (∃ c, Arena.get unfinishedRun.2.world.conns 0 = some c ∧ c.conn.opened <+: request localhost root) ∧
      askingRun.1 ≠ .fault := by
  have arrived : (tapeParty (unfinished.map mask)).wire <+: (tapeParty []).sent askingRun.2.world.app := by decide +kernel
  rw [askingRun] at arrived
  obtain ⟨read, safe, -⟩ := client_prints_response (maskedLibrary_speaks _ _ _) (maskedLibrary_speaks _ _ _)
    (tapeOs_serves []) (tapeOs_serves (unfinished.map mask)) rfl rfl (tapeProcess_begins [] .client)
    (tapeProcess_begins (unfinished.map mask) .server) rfl rfl 3 2 localhost root List.nil_prefix arrived
  rw [← unfinishedRun] at read
  rw [← askingRun] at safe
  exact ⟨read, safe⟩

end RustlsFfi.Demo.Exchange
