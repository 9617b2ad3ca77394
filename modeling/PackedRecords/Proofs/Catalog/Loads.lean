import Mathlib.Data.Set.Card
import PackedRecords.Catalog.Dictionary
import PackedRecords.Proofs.Catalog.Steady
import PackedRecords.Proofs.Logged

/-!
Cached catalogs over sources that may do anything: fail and recover, or declare a name in
another way the next time. Every load is written down with what it gave, and a catalog is
compared with that.

Proved here, for every source:

* `EntityQuestion.ask_eq`, `EnumerationQuestion.ask_eq`: a question is answered from one
  declaration, whatever else is held;
* `Mirrors.run`: after any calls, what is held under a name is the first declaration that
  was loaded for it, by induction on the calls;
* on top of them, which call loads what, and what it answers.
-/

namespace PackedRecords

/-- Each name counts once. -/
theorem NameMap.size_eq_ncard {α : Type} (m : NameMap α) :
    m.size = {name | ∃ x, m.get? name = some x}.ncard := by
  have names : (m.entries.map Prod.fst).Nodup := by
    rw [List.nodup_iff_pairwise_ne, List.pairwise_map]
    refine m.sorted.imp fun {entry other} before same => ?_
    rw [same] at before
    exact String.lt_irrefl _ before
  have members : {name | ∃ x, m.get? name = some x} = (m.entries.map Prod.fst).toFinset := by
    ext name
    simp [← NameMap.mem_entries]
  rw [members, Set.ncard_coe_finset, List.toFinset_card_of_nodup names, List.length_map]
  rfl

/-! ## Loads -/

/-- One use of a source, with what it gave. -/
inductive Load where
  | entity (name : String) (result : Except CatalogFault Entity)
  | enumeration (name : String) (result : Except CatalogFault Enumeration)

namespace Load

/-- The entity of this name, if the load gave it. -/
def entity? (name : String) : Load → Option Entity
  | .entity other result => if name = other then result.toOption else none
  | .enumeration _ _ => none

/-- The enumeration of this name, if the load gave it. -/
def enumeration? (name : String) : Load → Option Enumeration
  | .entity _ _ => none
  | .enumeration other result => if name = other then result.toOption else none

/-- The load gave what these functions give for the name. -/
def Agrees (entities : String → Except CatalogFault Entity)
    (enumerations : String → Except CatalogFault Enumeration) : Load → Prop
  | .entity name result => result = entities name
  | .enumeration name result => result = enumerations name

theorem entity?_eq_some_iff {name : String} {l : Load} {e : Entity} :
    l.entity? name = some e ↔ l = .entity name (.ok e) := by
  cases l with
  | enumeration => simp [entity?]
  | entity other result =>
    cases result with
    | error fault => simp [entity?, Except.toOption]
    | ok e' => simp [entity?, Except.toOption, eq_comm]

theorem enumeration?_eq_some_iff {name : String} {l : Load} {e : Enumeration} :
    l.enumeration? name = some e ↔ l = .enumeration name (.ok e) := by
  cases l with
  | entity => simp [enumeration?]
  | enumeration other result =>
    cases result with
    | error fault => simp [enumeration?, Except.toOption]
    | ok e' => simp [enumeration?, Except.toOption, eq_comm]

end Load

namespace Logged

variable {Q ε σ α : Type}

/-- Takes a step, and writes down what it gave. -/
def note (q : Except ε α → Q) (x : Attempt ε σ α) : Attempt ε (Logged Q σ) α := fun l =>
  ((x l.state).1, ⟨(x l.state).2, l.log ++ [q (x l.state).1]⟩)

instance {L : Type} [CatalogSource L] : CatalogSource (Logged Load L) where
  entityNamed name := note (.entity name) (CatalogSource.entityNamed name)
  enumerationNamed name := note (.enumeration name) (CatalogSource.enumerationNamed name)

end Logged

/-- A source that gives these answers while `known` holds of its state, which no load ends. -/
structure CatalogSource.Steady (L : Type) [CatalogSource L] (known : L → Prop)
    (entities : String → Except CatalogFault Entity)
    (enumerations : String → Except CatalogFault Enumeration) : Prop where
  entityNamed : ∀ name,
    Attempt.Gives known (CatalogSource.entityNamed (L := L) name) (entities name)
  enumerationNamed : ∀ name,
    Attempt.Gives known (CatalogSource.enumerationNamed (L := L) name) (enumerations name)

theorem Dictionary.steady (d : Dictionary) :
    CatalogSource.Steady Dictionary (· = d) d.entity d.enumeration where
  entityNamed name := by
    rintro _ rfl
    exact ⟨_, rfl, rfl⟩
  enumerationNamed name := by
    rintro _ rfl
    exact ⟨_, rfl, rfl⟩

namespace CachedCatalog

/-! ## Questions -/

/-- What can be asked about an entity. -/
inductive EntityQuestion where
  | declaration
  | kindOf (attr : String)
  | isIdentity (attr : String)

/-- What can be asked about an enumeration. -/
inductive EnumerationQuestion where
  | declaration
  | codeOf (literal : String)
  | literalOf (code : Int32)

inductive Answer where
  | entity (e : Entity)
  | enumeration (e : Enumeration)
  | kind (k : Kind)
  | identity (is : Bool)
  | code (code : Int32)
  | literal (literal : String)

variable {L : Type}

namespace EntityQuestion

/-- What a declaration says to the question. -/
def answer (name : String) (e : Entity) : EntityQuestion → Except CatalogFault Answer
  | .declaration => .ok (.entity e)
  | .kindOf attr =>
    match e.attribute? attr with
    | some a => .ok (.kind a.kind)
    | none => .error (.unknownAttribute name attr)
  | .isIdentity attr =>
    match e.attribute? attr with
    | some a => .ok (.identity a.identity)
    | none => .error (.unknownAttribute name attr)

variable [CatalogSource L]

def ask (name : String) : EntityQuestion → Attempt CatalogFault (CachedCatalog L) Answer
  | .declaration => do pure (.entity (← CachedCatalog.entity name))
  | .kindOf attr => do pure (.kind (← Catalog.kindOf name attr))
  | .isIdentity attr => do pure (.identity (← Catalog.isIdentity name attr))

theorem ask_eq (name : String) (q : EntityQuestion) :
    (q.ask name : Attempt CatalogFault (CachedCatalog L) Answer) =
      CachedCatalog.entity name >>= fun e => Attempt.ofExcept (q.answer name e) := by
  cases q with
  | declaration => rfl
  | kindOf attr =>
    simp only [ask, Catalog.kindOf, attributeOf, bind_assoc]
    congr 1
    funext e
    rw [answer]
    cases e.attribute? attr <;> rfl
  | isIdentity attr =>
    simp only [ask, Catalog.isIdentity, attributeOf, bind_assoc]
    congr 1
    funext e
    rw [answer]
    cases e.attribute? attr <;> rfl

end EntityQuestion

namespace EnumerationQuestion

/-- What a declaration says to the question. -/
def answer (name : String) (e : Enumeration) : EnumerationQuestion → Except CatalogFault Answer
  | .declaration => .ok (.enumeration e)
  | .codeOf literal =>
    match e.code? literal with
    | some code => .ok (.code code)
    | none => .error (.unknownLiteral name literal)
  | .literalOf code =>
    match e.literal? code with
    | some literal => .ok (.literal literal)
    | none => .error (.unknownCode name code)

variable [CatalogSource L]

def ask (name : String) : EnumerationQuestion → Attempt CatalogFault (CachedCatalog L) Answer
  | .declaration => do pure (.enumeration (← CachedCatalog.enumeration name))
  | .codeOf literal => do pure (.code (← Catalog.codeOf name literal))
  | .literalOf code => do pure (.literal (← Catalog.literalOf name code))

theorem ask_eq (name : String) (q : EnumerationQuestion) :
    (q.ask name : Attempt CatalogFault (CachedCatalog L) Answer) =
      CachedCatalog.enumeration name >>= fun e => Attempt.ofExcept (q.answer name e) := by
  cases q with
  | declaration => rfl
  | codeOf literal =>
    simp only [ask, Catalog.codeOf, CachedCatalog.codeOf, bind_assoc]
    congr 1
    funext e
    rw [answer]
    cases e.code? literal <;> rfl
  | literalOf code =>
    simp only [ask, Catalog.literalOf, CachedCatalog.literalOf, bind_assoc]
    congr 1
    funext e
    rw [answer]
    cases e.literal? code <;> rfl

end EnumerationQuestion

/-! ## Calls -/

inductive Call where
  | entity (name : String) (q : EntityQuestion)
  | enumeration (name : String) (q : EnumerationQuestion)

namespace Call

variable [CatalogSource L]

def perform : Call → Attempt CatalogFault (CachedCatalog L) Answer
  | .entity name q => q.ask name
  | .enumeration name q => q.ask name

/-- The same without a cache, if declarations are functions of the name. -/
def lookUp (entities : String → Except CatalogFault Entity)
    (enumerations : String → Except CatalogFault Enumeration) : Call → Except CatalogFault Answer
  | .entity name q => entities name >>= q.answer name
  | .enumeration name q => enumerations name >>= q.answer name

variable {c : CachedCatalog L} {name : String}

theorem perform_entity (q : EntityQuestion) :
    (Call.entity name q).perform c =
      ((CachedCatalog.entity name c).1 >>= q.answer name, (CachedCatalog.entity name c).2) := by
  rw [perform, q.ask_eq, Attempt.bind_ofExcept]

theorem perform_enumeration (q : EnumerationQuestion) :
    (Call.enumeration name q).perform c =
      ((CachedCatalog.enumeration name c).1 >>= q.answer name,
        (CachedCatalog.enumeration name c).2) := by
  rw [perform, q.ask_eq, Attempt.bind_ofExcept]

end Call

/-! ## What is held -/

/-- What the catalog holds under a name is what the log first has for it. -/
structure Mirrors (c : CachedCatalog (Logged Load L)) : Prop where
  entities : ∀ name, c.entities.get? name = c.source.log.findSome? (Load.entity? name)
  enumerations : ∀ name,
    c.enumerations.get? name = c.source.log.findSome? (Load.enumeration? name)

/-- If the held declarations of one sort are the first in the log, they still are when a load
that was missing is written down and kept. -/
theorem get?_keep_of_first {α : Type} {first : String → Load → Option α} {held : NameMap α}
    {log : List Load} {name : String} {result : Except CatalogFault α} {l : Load}
    (mirrors : ∀ other, held.get? other = log.findSome? (first other))
    (missing : held.get? name = none)
    (noted : ∀ other, first other l = if other = name then result.toOption else none)
    (other : String) :
    (keep name held result).get? other = (log ++ [l]).findSome? (first other) := by
  rw [get?_keep, List.findSome?_append, ← mirrors, List.findSome?_singleton, noted]
  by_cases same : other = name
  · rw [if_pos same, if_pos same, same, missing, Option.or_none, Option.none_or]
  · rw [if_neg same, if_neg same, Option.or_none]

variable {c t : CachedCatalog (Logged Load L)} {answer : Except CatalogFault Answer}

namespace Mirrors

theorem ofSource (source : L) : Mirrors (.ofSource (.ofState source : Logged Load L)) :=
  ⟨fun _ => rfl, fun _ => rfl⟩

theorem entities_iff (mirrors : Mirrors c) (name : String) :
    (∃ e, c.entities.get? name = some e) ↔ ∃ e, .entity name (.ok e) ∈ c.source.log := by
  rw [mirrors.entities]
  constructor
  · rintro ⟨e, first⟩
    obtain ⟨l, mem, gave⟩ := List.exists_of_findSome?_eq_some first
    exact ⟨e, Load.entity?_eq_some_iff.mp gave ▸ mem⟩
  · rintro ⟨e, mem⟩
    rw [← Option.isSome_iff_exists, List.findSome?_isSome_iff]
    exact ⟨_, mem, by simp [Load.entity?_eq_some_iff.mpr]⟩

/-- As many entities are held as names of entities have been loaded. -/
theorem entityCount (mirrors : Mirrors c) :
    c.entityCount = {name | ∃ e, .entity name (.ok e) ∈ c.source.log}.ncard := by
  rw [CachedCatalog.entityCount, NameMap.size_eq_ncard]
  congr 1
  ext name
  exact mirrors.entities_iff name

end Mirrors

/-- How a call about one name goes. If a declaration of the name has been loaded, the call
reads the first and does nothing else. If none has, it loads one, which is written down, and
reads it, or fails as the load does. -/
structure Recalls {α : Type} (first : Option α) (load : Except CatalogFault α × L)
    (written : Except CatalogFault α → Load) (read : α → Except CatalogFault Answer)
    (c t : CachedCatalog (Logged Load L)) (answer : Except CatalogFault Answer) : Prop where
  again : ∀ x, first = some x → answer = read x ∧ t = c
  once : first = none → answer = (load.1 >>= read) ∧
    t.source = ⟨load.2, c.source.log ++ [written load.1]⟩

section Truthful

variable (known : L → Prop) (entities : String → Except CatalogFault Entity)
  (enumerations : String → Except CatalogFault Enumeration)

/-- All loads were as these functions have it, and the next ones will be. -/
structure Truthful (c : CachedCatalog (Logged Load L)) : Prop where
  known : known c.source.state
  loads : ∀ l ∈ c.source.log, l.Agrees entities enumerations

end Truthful

variable {known : L → Prop} {entities : String → Except CatalogFault Entity}
  {enumerations : String → Except CatalogFault Enumeration}

theorem Truthful.ofSource {source : L} (start : known source) :
    Truthful known entities enumerations (.ofSource (.ofState source)) :=
  ⟨start, List.forall_mem_nil _⟩

/-- A call that loads what the functions have answers by them, now or from the log. -/
theorem Recalls.of_agrees {α : Type} {first : String → Load → Option α} {name : String}
    {load : Except CatalogFault α × L} {written : Except CatalogFault α → Load}
    {read : α → Except CatalogFault Answer} {result : Except CatalogFault α}
    (recalls : Recalls (c.source.log.findSome? (first name)) load written read c t answer)
    (truthful : Truthful known entities enumerations c)
    (logged : ∀ l x, first name l = some x → l.Agrees entities enumerations → result = .ok x)
    (loaded : ∃ next, load = (result, next) ∧ known next)
    (noted : (written result).Agrees entities enumerations) :
    answer = (result >>= read) ∧ Truthful known entities enumerations t := by
  cases found : c.source.log.findSome? (first name) with
  | some x =>
    obtain ⟨l, mem, gave⟩ := List.exists_of_findSome?_eq_some found
    obtain ⟨answered, rfl⟩ := recalls.again x found
    refine ⟨?_, truthful⟩
    rw [answered, logged l x gave (truthful.loads l mem)]
    rfl
  | none =>
    obtain ⟨next, rfl, holds⟩ := loaded
    obtain ⟨answered, after⟩ := recalls.once found
    refine ⟨answered, ?_, ?_⟩
    · rw [after]
      exact holds
    · rw [after]
      exact List.forall_mem_append.mpr ⟨truthful.loads, List.forall_mem_singleton.mpr noted⟩

/-! ## Runs -/

variable [CatalogSource L]

/-- The catalog after calls in turn. A failure is an answer like any other. -/
def run (calls : List Call) (c : CachedCatalog L) : CachedCatalog L :=
  calls.foldl (fun c call => (call.perform c).2) c

/-- The same catalog without the log of its source. -/
def forget (c : CachedCatalog (Logged Load L)) : CachedCatalog L :=
  ⟨c.source.state, c.entities, c.enumerations⟩

theorem perform_forget (call : Call) (c : CachedCatalog (Logged Load L)) :
    call.perform c.forget = ((call.perform c).1, (call.perform c).2.forget) := by
  cases call with
  | entity name q =>
    rw [Call.perform_entity, Call.perform_entity]
    cases held : c.entities.get? name with
    | some e => rw [entity_of_held held, entity_of_held (c := c.forget) held]
    | none =>
      rw [entity_of_missing held, entity_of_missing (c := c.forget) held]
      rfl
  | enumeration name q =>
    rw [Call.perform_enumeration, Call.perform_enumeration]
    cases held : c.enumerations.get? name with
    | some e => rw [enumeration_of_held held, enumeration_of_held (c := c.forget) held]
    | none =>
      rw [enumeration_of_missing held, enumeration_of_missing (c := c.forget) held]
      rfl

theorem run_forget (calls : List Call) (c : CachedCatalog (Logged Load L)) :
    run calls c.forget = (run calls c).forget := by
  induction calls generalizing c with
  | nil => rfl
  | cons call calls ih =>
    rw [run, List.foldl_cons, perform_forget]
    exact ih _

namespace Mirrors

theorem perform (mirrors : Mirrors c) (call : Call) : Mirrors (call.perform c).2 := by
  cases call with
  | entity name q =>
    rw [Call.perform_entity]
    cases held : c.entities.get? name with
    | some e =>
      rw [entity_of_held held]
      exact mirrors
    | none =>
      rw [entity_of_missing held]
      refine ⟨get?_keep_of_first mirrors.entities held fun _ => rfl, ?_⟩
      intro other
      show c.enumerations.get? other = (c.source.log ++ [_]).findSome? _
      rw [List.findSome?_append, ← mirrors.enumerations]
      exact Option.or_none.symm
  | enumeration name q =>
    rw [Call.perform_enumeration]
    cases held : c.enumerations.get? name with
    | some e =>
      rw [enumeration_of_held held]
      exact mirrors
    | none =>
      rw [enumeration_of_missing held]
      refine ⟨?_, get?_keep_of_first mirrors.enumerations held fun _ => rfl⟩
      intro other
      show c.entities.get? other = (c.source.log ++ [_]).findSome? _
      rw [List.findSome?_append, ← mirrors.entities]
      exact Option.or_none.symm

theorem run (mirrors : Mirrors c) (calls : List Call) : Mirrors (run calls c) := by
  induction calls generalizing c with
  | nil => exact mirrors
  | cons call calls ih => exact ih (mirrors.perform call)

theorem recalls_entity (mirrors : Mirrors c) {name : String} {q : EntityQuestion}
    (performed : (Call.entity name q).perform c = (answer, t)) :
    Recalls (c.source.log.findSome? (Load.entity? name))
      (CatalogSource.entityNamed name c.source.state) (.entity name) (q.answer name)
      c t answer := by
  rw [← mirrors.entities]
  rw [Call.perform_entity] at performed
  constructor
  · intro e held
    rw [entity_of_held held] at performed
    cases performed
    exact ⟨rfl, rfl⟩
  · intro missing
    rw [entity_of_missing missing] at performed
    cases performed
    exact ⟨rfl, rfl⟩

theorem recalls_enumeration (mirrors : Mirrors c) {name : String} {q : EnumerationQuestion}
    (performed : (Call.enumeration name q).perform c = (answer, t)) :
    Recalls (c.source.log.findSome? (Load.enumeration? name))
      (CatalogSource.enumerationNamed name c.source.state) (.enumeration name) (q.answer name)
      c t answer := by
  rw [← mirrors.enumerations]
  rw [Call.perform_enumeration] at performed
  constructor
  · intro e held
    rw [enumeration_of_held held] at performed
    cases performed
    exact ⟨rfl, rfl⟩
  · intro missing
    rw [enumeration_of_missing missing] at performed
    cases performed
    exact ⟨rfl, rfl⟩

end Mirrors

namespace Truthful

/-- Over a steady source, every call answers as if nothing were ever held. -/
theorem perform (truthful : Truthful known entities enumerations c)
    (steady : CatalogSource.Steady L known entities enumerations) (mirrors : Mirrors c)
    {call : Call} (performed : call.perform c = (answer, t)) :
    answer = call.lookUp entities enumerations ∧ Truthful known entities enumerations t := by
  cases call with
  | entity name q =>
    refine (mirrors.recalls_entity performed).of_agrees truthful ?_
      (steady.entityNamed name truthful.known) rfl
    intro l e gave agrees
    obtain rfl := Load.entity?_eq_some_iff.mp gave
    exact agrees.symm
  | enumeration name q =>
    refine (mirrors.recalls_enumeration performed).of_agrees truthful ?_
      (steady.enumerationNamed name truthful.known) rfl
    intro l e gave agrees
    obtain rfl := Load.enumeration?_eq_some_iff.mp gave
    exact agrees.symm

theorem run (truthful : Truthful known entities enumerations c)
    (steady : CatalogSource.Steady L known entities enumerations) (mirrors : Mirrors c)
    (calls : List Call) : Truthful known entities enumerations (run calls c) := by
  induction calls generalizing c with
  | nil => exact truthful
  | cons call calls ih =>
    exact ih (truthful.perform steady mirrors rfl).2 (mirrors.perform call)

end Truthful

/-- Whatever the source gives, and whatever has been asked: a name that has been loaded is
answered for from its first declaration, with nothing loaded. Any other is loaded once more,
and the call answers from that, or fails as it does. As many entities are held as have been
loaded. If the source gives the same whenever it is asked, holding its declarations changes no
answer. -/
theorem answers_from_first_loads (source : L) (past : List Call) (call : Call)
    (reached : c = run past (.ofSource (.ofState source)))
    (performed : call.perform c = (answer, t)) :
    (run past (.ofSource source) = c.forget ∧ call.perform c.forget = (answer, t.forget)) ∧
    c.entityCount = {name | ∃ e, .entity name (.ok e) ∈ c.source.log}.ncard ∧
    (∀ name q, call = .entity name q →
      Recalls (c.source.log.findSome? (Load.entity? name))
        (CatalogSource.entityNamed name c.source.state) (.entity name) (q.answer name)
        c t answer) ∧
    (∀ name q, call = .enumeration name q →
      Recalls (c.source.log.findSome? (Load.enumeration? name))
        (CatalogSource.enumerationNamed name c.source.state) (.enumeration name) (q.answer name)
        c t answer) ∧
    ∀ known entities enumerations, CatalogSource.Steady L known entities enumerations →
      known source → answer = call.lookUp entities enumerations := by
  have mirrors : Mirrors c := by
    rw [reached]
    exact (Mirrors.ofSource source).run past
  refine ⟨⟨?_, ?_⟩, mirrors.entityCount, ?_, ?_, ?_⟩
  · rw [reached]
    exact run_forget past (.ofSource (.ofState source))
  · rw [perform_forget, performed]
  · rintro name q rfl
    exact mirrors.recalls_entity performed
  · rintro name q rfl
    exact mirrors.recalls_enumeration performed
  · intro known entities enumerations steady start
    have truthful : Truthful known entities enumerations c := by
      rw [reached]
      exact (Truthful.ofSource start).run steady (Mirrors.ofSource source) past
    exact (truthful.perform steady mirrors performed).1

/-- A source that is down at first, and later declares a level in one way and then another. -/
private structure Fickle where
  uses : Nat

private instance : CatalogSource Fickle where
  entityNamed name := fun s =>
    (match s.uses with
      | 0 => .error (.unreachable "down")
      | 1 => .ok ((Entity.ofName name).declare ⟨"level", .scalar .int, false⟩)
      | _ => .ok ((Entity.ofName name).declare ⟨"level", .scalar .short, false⟩), ⟨s.uses + 1⟩)
  enumerationNamed name := fun s => (.error (.unknownEnumeration name), ⟨s.uses + 1⟩)

private def springs : Dictionary :=
  Dictionary.empty.addEntity ((Entity.ofName "spring").declare ⟨"level", .scalar .int, false⟩)

private def attempts : List Call :=
  [.entity "spring" (.kindOf "level"), .entity "spring" (.kindOf "depth"),
    .enumeration "spring" (.codeOf "dry")]

private def tried : CachedCatalog (Logged Load Fickle) :=
  run attempts (.ofSource (.ofState ⟨0⟩))

private def consulted : CachedCatalog (Logged Load Dictionary) :=
  run attempts (.ofSource (.ofState springs))

/-- A load that fails is made good by the next one. What that gave is the answer from then on,
also where the source has changed its mind. -/
theorem answers_of_fickle_source :
    tried.source.log.length = 3 ∧
    (Call.entity "spring" (.kindOf "level")).perform tried =
      (.ok (.kind (.scalar .int)), tried) ∧
    ((Call.entity "spring" (.kindOf "level")).perform consulted).1 =
      .ok (.kind (.scalar .int)) := by
  obtain ⟨-, -, recalls, -, -⟩ := answers_from_first_loads ⟨0⟩ attempts
    (.entity "spring" (.kindOf "level")) (c := tried) rfl rfl
  obtain ⟨answered, kept⟩ := (recalls "spring" _ rfl).again _ rfl
  obtain ⟨-, -, -, -, steady⟩ := answers_from_first_loads springs attempts
    (.entity "spring" (.kindOf "level")) (c := consulted) rfl rfl
  exact ⟨rfl, Prod.ext answered kept, steady _ _ _ springs.steady rfl⟩

end CachedCatalog

end PackedRecords
