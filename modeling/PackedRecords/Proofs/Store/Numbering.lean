import Mathlib.Data.List.Induction
import PackedRecords.Proofs.Text.ByteOrder
import PackedRecords.Store.Memory

/-!
Memory stores in use: requests of any shape for any entities, some of which are refused. A
refusal is a reply like any other, and the run goes on behind it.

Proved here, for every run of requests to a new store:

* `fault?_eq_some_iff`, `check_eq_some_iff`: what is reported of a column, and of which
  column of a request;
* `Accounts.insert`, `Accounts.run`: the store has kept what it accepted and counts its rows
  by entity, by induction on the requests;
* on top of them, the reply to each request.
-/

namespace PackedRecords

open Text (bytes)

/-- A column with a flag and a payload for each row, all payloads of the kind it declares. -/
structure Column.Shaped (rowCount : Nat) (c : Column) : Prop where
  series : c.values.kind = c.kind
  validity_size : c.validity.size = rowCount
  values_size : c.values.size = rowCount

namespace MemoryStore

/-! ## Columns -/

/-- A column that a store without these kinds can take. -/
structure Suits (kinds : List Kind) (rowCount : Nat) (c : Column) : Prop where
  supported : c.kind ∉ kinds
  shaped : c.Shaped rowCount

/-- What is wrong with a column: its kind first of all, then the kind of its payloads, then
their number. -/
inductive Faulty (kinds : List Kind) (rowCount : Nat) (attr : String) (c : Column) :
    StoreFault → Prop where
  | kind (unsupported : c.kind ∈ kinds) :
    Faulty kinds rowCount attr c (.unsupportedKind attr c.kind)
  | series (supported : c.kind ∉ kinds) (other : c.values.kind ≠ c.kind) :
    Faulty kinds rowCount attr c (.rejected ("column " ++ Text.quote attr ++ " declares " ++
      c.kind.name ++ " but holds " ++ c.values.kind.name))
  | size (supported : c.kind ∉ kinds) (same : c.values.kind = c.kind)
      (sizes : c.validity.size ≠ rowCount ∨ c.values.size ≠ rowCount) :
    Faulty kinds rowCount attr c (.rejected ("column " ++ Text.quote attr ++ " has " ++
      toString c.values.size ++ " values for " ++ toString rowCount ++ " rows"))

variable {s t : MemoryStore} {kinds : List Kind} {rowCount : Nat} {attr : String} {c : Column}
  {request : Submission} {e : StoreFault}

theorem Faulty.not_suits (faulty : Faulty kinds rowCount attr c e) : ¬Suits kinds rowCount c := by
  intro suits
  cases faulty with
  | kind unsupported => exact suits.supported unsupported
  | series supported other => exact other suits.shaped.series
  | size supported same sizes =>
    rcases sizes with validity | values
    · exact validity suits.shaped.validity_size
    · exact values suits.shaped.values_size

theorem fault?_of_suits (suits : Suits s.unsupported rowCount c) :
    s.fault? rowCount attr c = none := by
  rw [fault?, if_neg suits.supported, if_neg (not_not_intro suits.shaped.series), if_neg]
  rintro (validity | values)
  · exact validity suits.shaped.validity_size
  · exact values suits.shaped.values_size

theorem fault?_of_faulty (faulty : Faulty s.unsupported rowCount attr c e) :
    s.fault? rowCount attr c = some e := by
  cases faulty with
  | kind unsupported => rw [fault?, if_pos unsupported]
  | series supported other => rw [fault?, if_neg supported, if_pos other]
  | size supported same sizes =>
    rw [fault?, if_neg supported, if_neg (not_not_intro same), if_pos sizes]

theorem suits_or_faulty (kinds : List Kind) (rowCount : Nat) (attr : String) (c : Column) :
    Suits kinds rowCount c ∨ ∃ e, Faulty kinds rowCount attr c e := by
  by_cases unsupported : c.kind ∈ kinds
  · exact .inr ⟨_, .kind unsupported⟩
  by_cases other : c.values.kind = c.kind
  · by_cases sizes : c.validity.size ≠ rowCount ∨ c.values.size ≠ rowCount
    · exact .inr ⟨_, .size unsupported other sizes⟩
    · simp only [not_or, not_not] at sizes
      exact .inl ⟨unsupported, other, sizes.1, sizes.2⟩
  · exact .inr ⟨_, .series unsupported other⟩

theorem fault?_eq_none_iff :
    s.fault? rowCount attr c = none ↔ Suits s.unsupported rowCount c := by
  refine ⟨fun clear => ?_, fault?_of_suits⟩
  rcases suits_or_faulty s.unsupported rowCount attr c with suits | ⟨e, faulty⟩
  · exact suits
  · rw [fault?_of_faulty faulty] at clear
    cases clear

theorem fault?_eq_some_iff :
    s.fault? rowCount attr c = some e ↔ Faulty s.unsupported rowCount attr c e := by
  refine ⟨fun fault => ?_, fault?_of_faulty⟩
  rcases suits_or_faulty s.unsupported rowCount attr c with suits | ⟨e', faulty⟩
  · rw [fault?_of_suits suits] at fault
    cases fault
  · rw [fault?_of_faulty faulty] at fault
    cases fault
    exact faulty

/-! ## Requests -/

/-- All columns of the request can be taken. -/
def Acceptable (kinds : List Kind) (request : Submission) : Prop :=
  ∀ attr c, request.columns.get? attr = some c → Suits kinds request.rowCount c

/-- The fault is that of the first column that cannot be taken, by the bytes of the names. -/
def Objects (kinds : List Kind) (request : Submission) (e : StoreFault) : Prop :=
  ∃ attr c, request.columns.get? attr = some c ∧ Faulty kinds request.rowCount attr c e ∧
    ∀ other c', bytes other < bytes attr → request.columns.get? other = some c' →
      Suits kinds request.rowCount c'

theorem check_eq_none_iff : s.check request = none ↔ Acceptable s.unsupported request := by
  rw [check, List.findSome?_eq_none_iff]
  constructor
  · intro clear attr c there
    exact fault?_eq_none_iff.mp (clear (attr, c) (NameMap.mem_entries.mpr there))
  · rintro acceptable ⟨attr, c⟩ mem
    exact fault?_of_suits (acceptable attr c (NameMap.mem_entries.mp mem))

theorem check_eq_some_iff : s.check request = some e ↔ Objects s.unsupported request e := by
  rw [check, List.findSome?_eq_some_iff]
  constructor
  · rintro ⟨before, ⟨attr, c⟩, after, split, fault, clear⟩
    have sorted := request.columns.sorted
    rw [split, List.pairwise_append, List.pairwise_cons] at sorted
    obtain ⟨-, ⟨behind, -⟩, -⟩ := sorted
    have there : request.columns.get? attr = some c := NameMap.mem_entries.mp (by simp [split])
    refine ⟨attr, c, there, fault?_eq_some_iff.mp fault, ?_⟩
    intro other c' earlier there'
    rw [Text.bytes_lt_iff] at earlier
    have mem := NameMap.mem_entries.mpr there'
    rw [split, List.mem_append, List.mem_cons] at mem
    rcases mem with mem | same | mem
    · exact fault?_eq_none_iff.mp (clear (other, c') mem)
    · cases same
      exact absurd earlier (String.lt_irrefl _)
    · exact absurd (String.lt_trans earlier (behind (other, c') mem)) (String.lt_irrefl other)
  · rintro ⟨attr, c, there, faulty, earlier⟩
    obtain ⟨before, after, split⟩ := List.append_of_mem (NameMap.mem_entries.mpr there)
    refine ⟨before, (attr, c), after, split, fault?_of_faulty faulty, ?_⟩
    rintro ⟨other, c'⟩ mem
    have sorted := request.columns.sorted
    rw [split, List.pairwise_append] at sorted
    obtain ⟨-, -, ahead⟩ := sorted
    have less : other < attr := ahead (other, c') mem (attr, c) List.mem_cons_self
    have there' : request.columns.get? other = some c' :=
      NameMap.mem_entries.mp (by simp [split, mem])
    exact fault?_of_suits (earlier other c' (Text.bytes_lt_iff.mpr less) there')

theorem insert_of_acceptable (acceptable : Acceptable s.unsupported request) :
    insert request s = (.ok (List.range' (s.nextId request.entity) request.rowCount), { s with
      nextIds := s.nextIds.insert request.entity (s.nextId request.entity + request.rowCount)
      accepted := s.accepted ++ [request] }) := by
  rw [insert, check_eq_none_iff.mpr acceptable]

theorem insert_of_objects (objects : Objects s.unsupported request e) :
    insert request s = (.error e, s) := by
  rw [insert, check_eq_some_iff.mpr objects]

theorem nextId_of_insert {name : String} {n : Nat} {accepted : List Submission}
    (entity : String) :
    nextId { s with nextIds := s.nextIds.insert name n, accepted } entity =
      if name = entity then n else s.nextId entity := by
  rw [nextId, NameMap.get?_insert]
  by_cases same : entity = name
  · rw [if_pos same, if_pos same.symm, Option.getD_some]
  · rw [if_neg same, if_neg (Ne.symm same), nextId]

theorem acceptable_or_objects (s : MemoryStore) (request : Submission) :
    Acceptable s.unsupported request ∨ ∃ e, Objects s.unsupported request e := by
  cases checked : s.check request with
  | none => exact .inl (check_eq_none_iff.mp checked)
  | some e => exact .inr ⟨e, check_eq_some_iff.mp checked⟩

/-! ## Runs -/

/-- Requests with the replies to them, oldest first. -/
abbrev Transcript := List (Submission × Except StoreFault (List Nat))

/-- The replies to requests in turn, and the store after them. -/
def run : List Submission → MemoryStore → Transcript × MemoryStore
  | [], s => ([], s)
  | request :: requests, s =>
    ((request, (insert request s).1) :: (run requests (insert request s).2).1,
      (run requests (insert request s).2).2)

theorem run_concat (requests : List Submission) (request : Submission) (s : MemoryStore) :
    run (requests ++ [request]) s =
      ((run requests s).1 ++ [(request, (insert request (run requests s).2).1)],
        (insert request (run requests s).2).2) := by
  induction requests generalizing s with
  | nil => rfl
  | cons first requests ih => simp only [List.cons_append, run, ih]

/-- A new store that takes no columns of these kinds. -/
def refusing (kinds : List Kind) : MemoryStore := kinds.foldr (fun kind s => s.without kind) empty

theorem refusing_eq (kinds : List Kind) : refusing kinds = ⟨kinds, .empty, []⟩ := by
  induction kinds with
  | nil => rfl
  | cons kind kinds ih =>
    rw [refusing] at ih
    rw [refusing, List.foldr_cons, ih, without]

namespace Transcript

/-- The requests that were accepted. -/
def accepted (past : Transcript) : List Submission :=
  past.filterMap fun (request, reply) => reply.toOption.map fun _ => request

/-- The identifiers that rows of an entity were given. -/
def issued (entity : String) (past : Transcript) : List Nat :=
  past.flatMap fun (request, reply) =>
    if request.entity = entity then reply.toOption.getD [] else []

end Transcript

/-- The number of rows that requests have for an entity. -/
def rowsOf (entity : String) : List Submission → Nat
  | [] => 0
  | request :: requests =>
    (if request.entity = entity then request.rowCount else 0) + rowsOf entity requests

theorem rowsOf_concat (entity : String) (requests : List Submission) (request : Submission) :
    rowsOf entity (requests ++ [request]) =
      rowsOf entity requests + if request.entity = entity then request.rowCount else 0 := by
  induction requests with
  | nil => exact Nat.add_comm _ 0
  | cons first requests ih => rw [List.cons_append, rowsOf, rowsOf, ih, Nat.add_assoc]

namespace Transcript

variable {past : Transcript} {reply : Except StoreFault (List Nat)} {ids : List Nat}

theorem accepted_of_ok :
    accepted (past ++ [(request, .ok ids)]) = accepted past ++ [request] := by
  simp [accepted, Except.toOption]

theorem accepted_of_error : accepted (past ++ [(request, .error e)]) = accepted past := by
  simp [accepted, Except.toOption]

theorem issued_of_ok (entity : String) :
    issued entity (past ++ [(request, .ok ids)]) =
      issued entity past ++ if request.entity = entity then ids else [] := by
  simp [issued, Except.toOption]

theorem issued_of_error (entity : String) :
    issued entity (past ++ [(request, .error e)]) = issued entity past := by
  simp [issued, Except.toOption]

end Transcript

/-- The store has what the transcript accepted, and has numbered its rows by entity. -/
structure Accounts (kinds : List Kind) (past : Transcript) (s : MemoryStore) : Prop where
  unsupported : s.unsupported = kinds
  accepted : s.accepted = past.accepted
  nextId : ∀ entity, s.nextId entity = 1 + rowsOf entity past.accepted
  issued : ∀ entity, past.issued entity = List.range' 1 (rowsOf entity past.accepted)

namespace Accounts

variable {past : Transcript}

theorem refusing (kinds : List Kind) : Accounts kinds [] (.refusing kinds) := by
  rw [refusing_eq]
  exact ⟨rfl, rfl, fun _ => rfl, fun _ => rfl⟩

theorem insert (accounts : Accounts kinds past s) (request : Submission) :
    Accounts kinds (past ++ [(request, (MemoryStore.insert request s).1)])
      (MemoryStore.insert request s).2 := by
  rcases acceptable_or_objects s request with acceptable | ⟨e, objects⟩
  · rw [insert_of_acceptable acceptable]
    constructor
    case unsupported => exact accounts.unsupported
    case accepted =>
      rw [Transcript.accepted_of_ok, ← accounts.accepted]
    case nextId =>
      intro entity
      rw [Transcript.accepted_of_ok, rowsOf_concat]
      have before := accounts.nextId
      rw [nextId_of_insert]
      by_cases same : request.entity = entity
      · rw [if_pos same, if_pos same, same, before, Nat.add_assoc]
      · rw [if_neg same, if_neg same, before, Nat.add_zero]
    case issued =>
      intro entity
      rw [Transcript.accepted_of_ok, rowsOf_concat, Transcript.issued_of_ok, accounts.issued]
      by_cases same : request.entity = entity
      · rw [if_pos same, if_pos same, same, accounts.nextId, List.range'_append_1]
      · rw [if_neg same, if_neg same, List.append_nil, Nat.add_zero]
  · rw [insert_of_objects objects]
    constructor
    case unsupported => exact accounts.unsupported
    case accepted =>
      rw [Transcript.accepted_of_error]
      exact accounts.accepted
    case nextId =>
      rw [Transcript.accepted_of_error]
      exact accounts.nextId
    case issued =>
      intro entity
      rw [Transcript.accepted_of_error, Transcript.issued_of_error]
      exact accounts.issued entity

theorem run (kinds : List Kind) (requests : List Submission) :
    Accounts kinds (MemoryStore.run requests (.refusing kinds)).1
      (MemoryStore.run requests (.refusing kinds)).2 := by
  induction requests using List.reverseRecOn with
  | nil => exact refusing kinds
  | append_singleton requests request ih =>
    rw [run_concat]
    exact ih.insert request

end Accounts

theorem Acceptable.not_objects (acceptable : Acceptable kinds request) :
    ¬Objects kinds request e := by
  rintro ⟨attr, c, there, faulty, -⟩
  exact faulty.not_suits (acceptable attr c there)

theorem Objects.unique {e' : StoreFault} (objects : Objects s.unsupported request e)
    (objects' : Objects s.unsupported request e') : e = e' :=
  Option.some.inj ((check_eq_some_iff.mpr objects).symm.trans (check_eq_some_iff.mpr objects'))

/-- After any requests to a store that takes no columns of some kinds: it has kept those that it
accepted, and the rows of each entity are numbered from 1 on without a gap. The next request is
accepted exactly if all its columns can be taken, and its rows get the next numbers. Else the
reply is the fault of the first column that cannot, and the store stays as it is. If words are
enough to count the rows, they are enough for their numbers. -/
theorem numbers_of_run (kinds : List Kind) (requests : List Submission) (request : Submission)
    {past : Transcript} {reply : Except StoreFault (List Nat)}
    (reached : run requests (refusing kinds) = (past, s))
    (replied : insert request s = (reply, t)) :
    s.accepted = past.accepted ∧
    (∀ entity, past.issued entity = List.range' 1 (rowsOf entity past.accepted)) ∧
    ((∃ ids, reply = .ok ids) ↔ Acceptable kinds request) ∧
    (∀ ids, reply = .ok ids →
      ids = List.range' (1 + rowsOf request.entity past.accepted) request.rowCount ∧
      t.accepted = s.accepted ++ [request]) ∧
    (∀ e, reply = .error e ↔ Objects kinds request e) ∧
    (∀ e, reply = .error e → t = s) ∧
    ((∀ entity, rowsOf entity t.accepted < UInt64.size - 1) →
      (∀ entity, t.nextId entity < UInt64.size) ∧
      ∀ ids, reply = .ok ids → ∀ id ∈ ids, id < UInt64.size) := by
  have accounts : Accounts kinds past s := by
    have after := Accounts.run kinds requests
    rwa [reached] at after
  have after := accounts.insert request
  rw [replied] at after
  have counted : (∀ entity, rowsOf entity t.accepted < UInt64.size - 1) →
      ∀ entity, t.nextId entity < UInt64.size := by
    intro few entity
    have enough := few entity
    rw [after.accepted] at enough
    rw [after.nextId]
    omega
  refine ⟨accounts.accepted, accounts.issued, ?_⟩
  rcases acceptable_or_objects s request with acceptable | ⟨e, objects⟩
  · rw [insert_of_acceptable acceptable] at replied
    cases replied
    rw [accounts.unsupported] at acceptable
    refine ⟨⟨fun _ => acceptable, fun _ => ⟨_, rfl⟩⟩, ?_, ?_, nofun, ?_⟩
    · rintro _ ⟨⟩
      exact ⟨by rw [accounts.nextId], rfl⟩
    · exact fun e => ⟨nofun, fun objects => absurd objects acceptable.not_objects⟩
    · intro few
      refine ⟨counted few, ?_⟩
      rintro _ ⟨⟩ id mem
      have next := counted few request.entity
      rw [nextId_of_insert, if_pos rfl] at next
      exact Nat.lt_of_lt_of_le (List.mem_range'_1.mp mem).2 (Nat.le_of_lt next)
  · rw [insert_of_objects objects] at replied
    cases replied
    rw [accounts.unsupported] at objects
    refine ⟨⟨nofun, fun acceptable => absurd objects acceptable.not_objects⟩, nofun, ?_, ?_, ?_⟩
    · intro e'
      constructor
      · rintro ⟨⟩
        exact objects
      · intro objects'
        rw [← accounts.unsupported] at objects objects'
        rw [objects.unique objects']
    · exact fun _ _ => rfl
    · exact fun few => ⟨counted few, nofun⟩

private def waves (n : Nat) : Column :=
  ⟨.scalar .int, none, Array.replicate n true, ⟨.scalar .int, Array.replicate n 7⟩⟩

private def photo : Column := ⟨.blob, none, #[true], ⟨.blob, #[[1]]⟩⟩

/-- The second request is a row short. -/
private def reports : List Submission :=
  [⟨"buoy", 2, NameMap.empty.insert "wave" (waves 2)⟩,
    ⟨"buoy", 3, NameMap.empty.insert "wave" (waves 2)⟩, ⟨"ship", 5, .empty⟩]

private def moored : MemoryStore := (run reports (refusing [.blob])).2

private def wave : Submission := ⟨"buoy", 1, NameMap.empty.insert "wave" (waves 1)⟩

private def photographed : Submission :=
  ⟨"buoy", 1, (NameMap.empty.insert "wave" (waves 2)).insert "photo" photo⟩

/-- Rows that were refused, or are those of a ship, have no numbers among those of a buoy. A
photograph is refused for its kind, before the waves after it for their number. -/
theorem numbers_of_buoys :
    (insert wave moored).1 = .ok [3] ∧
    (insert photographed moored).1 = .error (.unsupportedKind "photo" .blob) := by
  constructor
  · obtain ⟨-, -, accepted, numbers, -⟩ :=
      numbers_of_run [.blob] reports wave (s := moored) rfl (Prod.eta _).symm
    obtain ⟨ids, replied⟩ := accepted.mpr fun attr c there => by
      rw [wave, NameMap.get?_insert, NameMap.get?_empty] at there
      split at there
      · cases there
        exact ⟨by decide, rfl, rfl, rfl⟩
      · cases there
    rw [replied, (numbers ids replied).1]
    rfl
  · obtain ⟨-, -, -, -, refused, -⟩ :=
      numbers_of_run [.blob] reports photographed (s := moored) rfl (Prod.eta _).symm
    refine (refused _).mpr ⟨"photo", photo, rfl, .kind (by decide), ?_⟩
    intro other c earlier there
    rw [photographed, NameMap.get?_insert, NameMap.get?_insert, NameMap.get?_empty] at there
    split at there
    · rename_i same
      rw [same] at earlier
      exact absurd earlier (List.lt_irrefl _)
    · split at there
      · rename_i same
        rw [same] at earlier
        exact absurd earlier (by decide)
      · cases there

end MemoryStore

end PackedRecords
