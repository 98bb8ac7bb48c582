import Mathlib.Data.List.Lex
import Mathlib.Data.List.Sort
import PlugHub.Library.JsonText
import PlugHub.Library.OrderedMap
import PlugHub.Library.Runs
import PlugHub.Profiles.AgentProfile

/-!
# Pages of the agent catalog

Every replica keeps the pages of the catalog that it read, by the text of their query, with the
generation that was shared when the load began. A page is used while the shared generation is still
that one. Whoever writes the catalog empties its own cache and then increments the generation.

A load asks for the generation, looks at its cache, and reads the rows and their number in two
queries. Each of these is a step, and so are the write, the emptying and the increment. Pages and
answers carry the number of the write that each of their queries saw.
-/

namespace PlugHub.CatalogPages

open Library
open OrderedMap (forall_set get_eq_some_iff get_erase get_set_cases size_eq_count)
open Profiles (Agent AgentStatus)

/-! ## Queries -/

/-- Whose agents are listed. -/
inductive AgentCatalogScope where
  | all
  | user (userId : String)

/-- What is listed of them. -/
structure AgentListFilter where
  status : Option AgentStatus := none
  search : Option String := none
  page : Option Int := none
  pageSize : Option Int := none
  agentIds : Option (List String) := none

/-- The text of a status. -/
def statusName : AgentStatus → String
  | .active => "active"
  | .inactive => "inactive"

/-- The code units of a character. -/
def codeUnits (character : Char) : List Nat :=
  if character.toNat < 65536 then [character.toNat]
  else
    [55296 + (character.toNat - 65536) / 1024, 56320 + (character.toNat - 65536) % 1024]

/-- The order in which texts are sorted: that of their code units. -/
def unitsUpTo (first second : String) : Prop :=
  first.toList.flatMap codeUnits ≤ second.toList.flatMap codeUnits

instance (first second : String) : Decidable (unitsUpTo first second) :=
  inferInstanceAs (Decidable (first.toList.flatMap codeUnits ≤ second.toList.flatMap codeUnits))

/-- The scope as JSON. -/
def scopeText : AgentCatalogScope → Text
  | .all => '\x7b' :: (fieldText "kind" (stringText "all") ++ ['}'])
  | .user userId =>
    '\x7b' :: (fieldText "kind" (stringText "user") ++
      ',' :: (fieldText "userId" (stringText userId) ++ ['}']))

/-- The agents of a filter without repetition, sorted. -/
def sortedIds (agentIds : List String) : List String :=
  agentIds.eraseDups.insertionSort unitsUpTo

/-- `agentCatalogPageKey`; a filter that is not given is one without fields. -/
def agentCatalogPageKey (scope : AgentCatalogScope) (filter : AgentListFilter) : Text :=
  '\x7b' :: (fieldText "scope" (scopeText scope) ++
    ',' :: (fieldText "status" (nullableText (stringText ∘ statusName) filter.status) ++
    ',' :: (fieldText "search" (nullableText stringText filter.search) ++
    ',' :: (fieldText "page" (nullableText integerText filter.page) ++
    ',' :: (fieldText "pageSize" (nullableText integerText filter.pageSize) ++
    ',' :: (fieldText "agentIds" (nullableText arrayText (filter.agentIds.map sortedIds)) ++
    ['}']))))))

/-! ## The catalog -/

/-- A row of the catalog. -/
structure CatalogRow where
  agent : Agent
  users : List String

/-- A page of agents. -/
structure PaginatedAgentList where
  items : List Agent
  total : Nat
  page : Int
  pageSize : Int

/-- How the database compares texts. -/
structure TextSearch where
  contains : String → String → Bool
  containsInsensitive : String → String → Bool
  before : String → String → Bool

section FindPage

variable (search : TextSearch)

/-- A row is listed: the conditions of `findPage`. -/
def isListed (scope : AgentCatalogScope) (filter : AgentListFilter) (row : CatalogRow) : Bool :=
  (match scope with
    | .all => true
    | .user userId => row.users.contains userId) &&
  (filter.agentIds.all fun agentIds => agentIds.eraseDups.contains row.agent.agentId) &&
  (filter.status.all fun status => decide (row.agent.status = status)) &&
  (filter.search.all fun text => text = "" ||
    search.containsInsensitive row.agent.name text ||
    ((row.agent.fields .tradeName).any fun tradeName =>
      search.containsInsensitive tradeName text) ||
    (row.agent.document.any fun document => search.contains document text))

/-- The order of the agents on the pages. -/
def catalogOrder (first second : Agent) : Prop :=
  search.before first.name second.name = true ∨
    first.name = second.name ∧ search.before second.agentId first.agentId = false

instance (first second : Agent) : Decidable (catalogOrder search first second) :=
  inferInstanceAs (Decidable (_ ∨ _ ∧ _))

/-- The agents that are listed, in their order. -/
def listed (rows : List CatalogRow) (scope : AgentCatalogScope) (filter : AgentListFilter) :
    List Agent :=
  ((rows.filter (isListed search scope filter)).map (·.agent)).insertionSort (catalogOrder search)

/-- The number of the page. -/
def pageNumber (filter : AgentListFilter) : Int := max 1 (filter.page.getD 1)

/-- How many agents are on a page. -/
def pageSize (filter : AgentListFilter) : Int := max 1 (filter.pageSize.getD 20)

/-- The agents of a page: `findMany`. -/
def findMany (rows : List CatalogRow) (scope : AgentCatalogScope) (filter : AgentListFilter) :
    List Agent :=
  ((listed search rows scope filter).drop
    ((pageNumber filter - 1) * pageSize filter).toNat).take (pageSize filter).toNat

/-- How many agents there are on all pages: `count`. -/
def count (rows : List CatalogRow) (scope : AgentCatalogScope) (filter : AgentListFilter) : Nat :=
  rows.countP (isListed search scope filter)

/-- `findPage`, from the rows that its two queries see. -/
def findPage (itemsFrom totalFrom : List CatalogRow) (scope : AgentCatalogScope)
    (filter : AgentListFilter) : PaginatedAgentList where
  items := findMany search itemsFrom scope filter
  total := count search totalFrom scope filter
  page := pageNumber filter
  pageSize := pageSize filter

end FindPage

/-! ## Caches -/

/-- So many pages are kept. -/
def maxCatalogPages : Nat := 64

/-- A page that is kept. -/
structure CachedPage where
  generation : Nat
  page : PaginatedAgentList
  itemsVersion : Nat
  totalVersion : Nat

/-- The pages of a replica, by the text of their query. -/
abbrev PageEntries := OrderedMap Text CachedPage

/-- The oldest entries are removed while there are more than so many. -/
def withinLimit {α : Type} (limit : Nat) : List α → List α
  | [] => []
  | oldest :: rest =>
    if limit < (oldest :: rest).length then withinLimit limit rest else oldest :: rest

theorem withinLimit_sublist {α : Type} (limit : Nat) (entries : List α) :
    (withinLimit limit entries).Sublist entries := by
  induction entries with
  | nil => exact List.Sublist.refl _
  | cons oldest rest ih =>
    rw [withinLimit]
    split_ifs
    · exact ih.cons oldest
    · exact List.Sublist.refl _

/-- The removal of the oldest pages. -/
def evictOldest (entries : PageEntries) : PageEntries :=
  ⟨withinLimit maxCatalogPages entries.entries,
    entries.distinct.sublist ((withinLimit_sublist _ _).map Prod.fst)⟩

/-- `remember`. -/
def remember (entries : PageEntries) (key : Text) (page : CachedPage) : PageEntries :=
  evictOldest ((entries.erase key).set key page)

/-! ## Replicas -/

/-- How far the announcement of a write is. -/
inductive BumpPhase where
  | written
  | cleared
  | incremented
  | completed
deriving DecidableEq

/-- The announcement of a write. -/
structure Bump where
  replica : Nat
  phase : BumpPhase := .written

/-- How far a load is. -/
inductive LoadPhase where
  | asking
  | told (generation : Option Nat)
  | reading (generation : Option Nat) (items : Option (Nat × List CatalogRow))
    (total : Option (Nat × List CatalogRow))

/-- A load of a page. -/
structure PageLoad where
  replica : Nat
  scope : AgentCatalogScope
  filter : AgentListFilter
  announced : List Nat
  phase : LoadPhase := .asking

/-- A page that was returned. -/
structure PageAnswer where
  load : PageLoad
  page : PaginatedAgentList
  itemsVersion : Nat
  totalVersion : Nat

/-- The catalog with its replicas. -/
structure Catalog where
  versions : List (List CatalogRow)
  generation : Nat := 0
  increments : List Nat := []
  bumps : OrderedMap Nat Bump := .empty
  announced : List Nat := []
  caches : Nat → PageEntries := fun _ => .empty
  loads : OrderedMap Nat PageLoad := .empty
  nextLoad : Nat := 0
  answers : List PageAnswer := []

/-- What happens to the catalog. -/
inductive CatalogAction where
  | write (replica : Nat) (rows : List CatalogRow)
  /-- The writer empties its cache: the first half of `bump`. -/
  | clear (version : Nat)
  | increment (version : Nat)
  | complete (version : Nat)
  | start (replica : Nat) (scope : AgentCatalogScope) (filter : AgentListFilter)
  | readGeneration (load : Nat)
  | readFails (load : Nat)
  | resume (load : Nat)
  | readItems (load : Nat)
  | readTotal (load : Nat)
  | finish (load : Nat)

/-- The largest safe integer. -/
def maxSafeInteger : Nat := 9007199254740991

/-- What is told of a generation: `read`. -/
def confirmed (generation : Nat) : Option Nat :=
  if generation ≤ maxSafeInteger then some generation else none

namespace Catalog

variable (search : TextSearch) (catalog : Catalog)

/-- The number of the last write. -/
def version : Nat := catalog.versions.length - 1

/-- The rows after the last write. -/
def rows : List CatalogRow := catalog.versions.getLastD []

/-- The cache of a replica changes. -/
def setCache (replica : Nat) (entries : PageEntries) : Catalog :=
  { catalog with caches := Function.update catalog.caches replica entries }

/-- A load goes on. -/
def setPhase (number : Nat) (load : PageLoad) (phase : LoadPhase) : Catalog :=
  { catalog with loads := catalog.loads.set number { load with phase } }

/-- A load returns a page. -/
def answer (number : Nat) (load : PageLoad) (page : PaginatedAgentList)
    (itemsVersion totalVersion : Nat) : Catalog :=
  { catalog with
    loads := catalog.loads.erase number
    answers := catalog.answers ++ [⟨load, page, itemsVersion, totalVersion⟩] }

/-- An announcement goes on. -/
def advance (version : Nat) (phase next : BumpPhase) (change : Bump → Catalog → Catalog) :
    Catalog :=
  match catalog.bumps.get version with
  | none => catalog
  | some bump =>
    if bump.phase = phase then
      change bump { catalog with bumps := catalog.bumps.set version { bump with phase := next } }
    else catalog

/-- A load is told the generation and looks at the cache: `load`. -/
def resumed (number : Nat) (load : PageLoad) : Option Nat → Catalog
  | none => (catalog.setCache load.replica .empty).setPhase number load (.reading none none none)
  | some generation =>
    let entries := catalog.caches load.replica
    let key := agentCatalogPageKey load.scope load.filter
    match entries.get key with
    | none => catalog.setPhase number load (.reading (some generation) none none)
    | some hit =>
      if hit.generation = generation then
        (catalog.setCache load.replica ((entries.erase key).set key hit)).answer number load
          hit.page hit.itemsVersion hit.totalVersion
      else catalog.setPhase number load (.reading (some generation) none none)

/-- A load is told the page. -/
def finished (number : Nat) (load : PageLoad) (generation : Option Nat)
    (items total : Nat × List CatalogRow) : Catalog :=
  let page := findPage search items.2 total.2 load.scope load.filter
  match generation with
  | none => catalog.answer number load page items.1 total.1
  | some generation =>
    let key := agentCatalogPageKey load.scope load.filter
    (catalog.setCache load.replica
      (remember (catalog.caches load.replica) key ⟨generation, page, items.1, total.1⟩)).answer
        number load page items.1 total.1

/-- One step. -/
def step : CatalogAction → Catalog
  | .write replica rows =>
    { catalog with
      versions := catalog.versions ++ [rows]
      bumps := catalog.bumps.set catalog.versions.length { replica } }
  | .clear version => catalog.advance version .written .cleared fun bump catalog =>
    catalog.setCache bump.replica .empty
  | .increment version => catalog.advance version .cleared .incremented fun _ catalog =>
    { catalog with
      generation := catalog.generation + 1, increments := catalog.increments ++ [version] }
  | .complete version => catalog.advance version .incremented .completed fun _ catalog =>
    { catalog with announced := catalog.announced ++ [version] }
  | .start replica scope filter =>
    { catalog with
      loads := catalog.loads.set catalog.nextLoad
        { replica, scope, filter, announced := catalog.announced }
      nextLoad := catalog.nextLoad + 1 }
  | .readGeneration number =>
    match catalog.loads.get number with
    | some load =>
      match load.phase with
      | .asking => catalog.setPhase number load (.told (confirmed catalog.generation))
      | _ => catalog
    | none => catalog
  | .readFails number =>
    match catalog.loads.get number with
    | some load =>
      match load.phase with
      | .asking => catalog.setPhase number load (.told none)
      | _ => catalog
    | none => catalog
  | .resume number =>
    match catalog.loads.get number with
    | some load =>
      match load.phase with
      | .told generation => catalog.resumed number load generation
      | _ => catalog
    | none => catalog
  | .readItems number =>
    match catalog.loads.get number with
    | some load =>
      match load.phase with
      | .reading generation none total =>
        catalog.setPhase number load
          (.reading generation (some (catalog.version, catalog.rows)) total)
      | _ => catalog
    | none => catalog
  | .readTotal number =>
    match catalog.loads.get number with
    | some load =>
      match load.phase with
      | .reading generation items none =>
        catalog.setPhase number load
          (.reading generation items (some (catalog.version, catalog.rows)))
      | _ => catalog
    | none => catalog
  | .finish number =>
    match catalog.loads.get number with
    | some load =>
      match load.phase with
      | .reading generation (some items) (some total) =>
        catalog.finished search number load generation items total
      | _ => catalog
    | none => catalog

/-- What is promised. -/
structure Lawful : Prop where
  /-- A load returns no page that was read before a write whose announcement was complete when the
  load began. -/
  fresh : ∀ answer ∈ catalog.answers, ∀ write ∈ answer.load.announced,
    write ≤ answer.itemsVersion ∧ write ≤ answer.totalVersion
  /-- A page is that of the query, in the catalog as it was when it was read. -/
  genuine : ∀ answer ∈ catalog.answers, ∃ itemsFrom totalFrom,
    catalog.versions[answer.itemsVersion]? = some itemsFrom ∧
      catalog.versions[answer.totalVersion]? = some totalFrom ∧
        answer.page = findPage search itemsFrom totalFrom answer.load.scope answer.load.filter
  bounded : ∀ replica, (catalog.caches replica).size ≤ maxCatalogPages

end Catalog

/-! ## Keys -/

theorem scopeText_endsItself : EndsItself scopeText := by
  intro scope scope' rest rest' same
  cases scope with
  | all =>
    cases scope' with
    | all => exact ⟨rfl, List.append_cancel_left same⟩
    | user userId =>
      have fields := (List.cons.inj same).2
      simp only [List.append_eq, List.append_assoc] at fields
      exact absurd (stringText_endsItself _ _ _ _ (of_fieldText fields)).1 (by decide)
  | user userId =>
    cases scope' with
    | all =>
      have fields := (List.cons.inj same).2
      simp only [List.append_eq, List.append_assoc] at fields
      exact absurd (stringText_endsItself _ _ _ _ (of_fieldText fields)).1 (by decide)
    | user userId' =>
      have fields := (List.cons.inj same).2
      simp only [List.append_eq, List.append_assoc, List.cons_append] at fields
      have afterKind := (List.cons.inj (List.append_cancel_left fields)).2
      obtain ⟨users, ends⟩ := stringText_endsItself _ _ _ _ (of_fieldText afterKind)
      exact ⟨congrArg _ users, (List.cons.inj ends).2⟩

theorem statusText_endsItself : EndsItself (stringText ∘ statusName) := by
  intro status status' rest rest' same
  obtain ⟨names, rests⟩ := stringText_endsItself _ _ _ _ same
  refine ⟨?_, rests⟩
  cases status with
  | active =>
    cases status' with
    | active => rfl
    | inactive => exact absurd names (by decide)
  | inactive =>
    cases status' with
    | active => exact absurd names (by decide)
    | inactive => rfl

variable {scope scope' : AgentCatalogScope} {filter filter' : AgentListFilter}

theorem of_agentCatalogPageKey
    (same : agentCatalogPageKey scope filter = agentCatalogPageKey scope' filter') :
    scope = scope' ∧ filter.status = filter'.status ∧ filter.search = filter'.search ∧
      filter.page = filter'.page ∧ filter.pageSize = filter'.pageSize ∧
        filter.agentIds.map sortedIds = filter'.agentIds.map sortedIds := by
  have atScope := of_fieldText (List.cons.inj same).2
  obtain ⟨scopes, afterScope⟩ := scopeText_endsItself.delimits _ _ _ _ atScope
  have statusDelimits : Delimits (nullableText (stringText ∘ statusName)) :=
    nullableText_delimits statusText_endsItself.delimits fun status =>
      stringText_begins (statusName status)
  obtain ⟨statuses, afterStatus⟩ := statusDelimits _ _ _ _ (of_fieldText afterScope)
  have searchDelimits : Delimits (nullableText stringText) :=
    nullableText_delimits stringText_endsItself.delimits stringText_begins
  obtain ⟨searches, afterSearch⟩ := searchDelimits _ _ _ _ (of_fieldText afterStatus)
  have numberDelimits : Delimits (nullableText integerText) :=
    nullableText_delimits integerText_delimits integerText_begins
  obtain ⟨pages, afterPage⟩ := numberDelimits _ _ _ _ (of_fieldText afterSearch)
  obtain ⟨sizes, afterSize⟩ := numberDelimits _ _ _ _ (of_fieldText afterPage)
  have idsDelimit : Delimits (nullableText arrayText) :=
    nullableText_delimits arrayText_endsItself.delimits arrayText_begins
  have ids := idsDelimit.injective (List.append_cancel_right (of_fieldText afterSize))
  exact ⟨scopes, statuses, searches, pages, sizes, ids⟩

theorem mem_sortedIds {agentIds : List String} {agentId : String} :
    agentId ∈ sortedIds agentIds ↔ agentId ∈ agentIds := by
  rw [sortedIds, List.mem_insertionSort, List.mem_eraseDups]

theorem isListed_of_key (search : TextSearch)
    (same : agentCatalogPageKey scope filter = agentCatalogPageKey scope' filter') :
    isListed search scope filter = isListed search scope' filter' := by
  obtain ⟨scopes, statuses, searches, -, -, ids⟩ := of_agentCatalogPageKey same
  have agents : ∀ row : CatalogRow,
      (filter.agentIds.all fun agentIds => agentIds.eraseDups.contains row.agent.agentId) =
        filter'.agentIds.all fun agentIds => agentIds.eraseDups.contains row.agent.agentId := by
    intro row
    cases left : filter.agentIds with
    | none =>
      rw [left, Option.map_none, eq_comm, Option.map_eq_none_iff] at ids
      rw [ids]
    | some agentIds =>
      rw [left, Option.map_some, eq_comm, Option.map_eq_some_iff] at ids
      obtain ⟨agentIds', right, sorted⟩ := ids
      have members : row.agent.agentId ∈ agentIds ↔ row.agent.agentId ∈ agentIds' := by
        rw [← mem_sortedIds, ← sorted, mem_sortedIds]
      rw [right, Option.all_some, Option.all_some, Bool.eq_iff_iff, List.contains_iff_mem,
        List.contains_iff_mem, List.mem_eraseDups, List.mem_eraseDups]
      exact members
  funext row
  unfold isListed
  rw [scopes, statuses, searches, agents row]

theorem findPage_of_key (search : TextSearch)
    (same : agentCatalogPageKey scope filter = agentCatalogPageKey scope' filter')
    (itemsFrom totalFrom : List CatalogRow) :
    findPage search itemsFrom totalFrom scope filter =
      findPage search itemsFrom totalFrom scope' filter' := by
  obtain ⟨-, -, -, pages, sizes, -⟩ := of_agentCatalogPageKey same
  have number : pageNumber filter = pageNumber filter' := by rw [pageNumber, pages, pageNumber]
  have size : pageSize filter = pageSize filter' := by rw [pageSize, sizes, pageSize]
  simp only [findPage, findMany, listed, count, isListed_of_key search same, number, size]

/-! ## Caches in a run -/

theorem length_withinLimit {α : Type} (limit : Nat) (entries : List α) :
    (withinLimit limit entries).length ≤ limit := by
  induction entries with
  | nil => exact Nat.zero_le _
  | cons oldest rest ih =>
    rw [withinLimit]
    split_ifs with crowded
    · exact ih
    · exact Nat.le_of_not_lt crowded

variable {entries : PageEntries}

theorem of_get_evictOldest {key : Text} {page : CachedPage}
    (found : (evictOldest entries).get key = some page) : entries.get key = some page := by
  rw [get_eq_some_iff] at found
  exact (get_eq_some_iff _ _ _).mpr ((withinLimit_sublist _ _).subset found)

theorem of_get_remember {key other : Text} {page kept : CachedPage}
    (found : (remember entries key page).get other = some kept) :
    (other = key ∧ kept = page) ∨ entries.get other = some kept := by
  rcases get_set_cases (of_get_evictOldest found) with new | ⟨_, earlier⟩
  · exact .inl new
  · rw [get_erase] at earlier
    split_ifs at earlier
    exact .inr earlier

theorem size_refreshed {key : Text} {hit : CachedPage} (found : entries.get key = some hit) :
    ((entries.erase key).set key hit).size = entries.size := by
  have moved := OrderedMap.count_set_of_absent (entries.erase key) hit (fun _ _ => true)
    (OrderedMap.get_erase_self entries key)
  have removed := OrderedMap.count_erase_of_present entries (fun _ _ => true) found
  rw [size_eq_count, size_eq_count]
  simp only [if_true] at moved removed
  omega

/-! ## What holds in a run -/

section Facts

variable (versions : List (List CatalogRow)) (increments : List Nat)

/-- What a query of a load saw: the rows after a write, which is none of those before the load nor,
if the load was told a generation, of those before that generation. -/
structure Saw (announced : List Nat) (generation : Option Nat) (seen : Nat × List CatalogRow) :
    Prop where
  rows : versions[seen.1]? = some seen.2
  announced : ∀ write ∈ announced, write ≤ seen.1
  generation : ∀ told ∈ generation, ∀ write ∈ increments.take told, write ≤ seen.1

/-- What holds of a load at a point. -/
def PhaseSound (announced : List Nat) : LoadPhase → Prop
  | .asking => True
  | .told generation => ∀ told ∈ generation, told ≤ increments.length ∧
    ∀ write ∈ announced, write ∈ increments.take told
  | .reading generation items total =>
    (∀ told ∈ generation, told ≤ increments.length) ∧
      (∀ seen ∈ items, Saw versions increments announced generation seen) ∧
        ∀ seen ∈ total, Saw versions increments announced generation seen

/-- A page is that of a query, in the catalog as it was when it was read. -/
def PageOf (search : TextSearch) (scope : AgentCatalogScope) (filter : AgentListFilter)
    (page : PaginatedAgentList) (itemsVersion totalVersion : Nat) : Prop :=
  ∃ itemsFrom totalFrom, versions[itemsVersion]? = some itemsFrom ∧
    versions[totalVersion]? = some totalFrom ∧
      page = findPage search itemsFrom totalFrom scope filter

/-- What holds of a page that is kept. -/
structure PageSound (search : TextSearch) (key : Text) (kept : CachedPage) : Prop where
  generation : kept.generation ≤ increments.length
  /-- No write that was announced before the generation came after the agents were read. -/
  items : ∀ write ∈ increments.take kept.generation, write ≤ kept.itemsVersion
  total : ∀ write ∈ increments.take kept.generation, write ≤ kept.totalVersion
  genuine : ∃ scope filter, key = agentCatalogPageKey scope filter ∧
    PageOf versions search scope filter kept.page kept.itemsVersion kept.totalVersion

end Facts

section Growth

variable {search : TextSearch} {versions versions' : List (List CatalogRow)}
  {increments increments' : List Nat}

theorem take_of_grown {first second : List Nat} (grown : first <+: second) {count : Nat}
    (few : count ≤ first.length) : second.take count = first.take count := by
  obtain ⟨rest, rfl⟩ := grown
  exact List.take_append_of_le_length few

theorem getElem_of_prefix {α : Type} {first second : List α} (grown : first <+: second)
    {index : Nat} {value : α} (found : first[index]? = some value) :
    second[index]? = some value := by
  obtain ⟨rest, rfl⟩ := grown
  obtain ⟨inside, _⟩ := List.getElem?_eq_some_iff.mp found
  rw [List.getElem?_append_left inside]
  exact found

theorem Saw.grow {announced : List Nat} {generation : Option Nat} {seen : Nat × List CatalogRow}
    (saw : Saw versions increments announced generation seen)
    (told : ∀ told ∈ generation, told ≤ increments.length) (grown : versions <+: versions')
    (more : increments <+: increments') : Saw versions' increments' announced generation seen where
  rows := getElem_of_prefix grown saw.rows
  announced := saw.announced
  generation := by
    intro value among write member
    rw [take_of_grown more (told value among)] at member
    exact saw.generation value among write member

theorem PhaseSound.grow {announced : List Nat} {phase : LoadPhase}
    (sound : PhaseSound versions increments announced phase) (grown : versions <+: versions')
    (more : increments <+: increments') : PhaseSound versions' increments' announced phase := by
  have longer : increments.length ≤ increments'.length := more.length_le
  cases phase with
  | asking => trivial
  | told generation =>
    intro told among
    obtain ⟨few, covered⟩ := sound told among
    refine ⟨Nat.le_trans few longer, fun write member => ?_⟩
    rw [take_of_grown more few]
    exact covered write member
  | reading generation items total =>
    obtain ⟨few, sawItems, sawTotal⟩ := sound
    exact ⟨fun told among => Nat.le_trans (few told among) longer,
      fun seen among => (sawItems seen among).grow few grown more,
      fun seen among => (sawTotal seen among).grow few grown more⟩

theorem PageOf.grow {scope : AgentCatalogScope} {filter : AgentListFilter}
    {page : PaginatedAgentList} {itemsVersion totalVersion : Nat}
    (genuine : PageOf versions search scope filter page itemsVersion totalVersion)
    (grown : versions <+: versions') :
    PageOf versions' search scope filter page itemsVersion totalVersion := by
  obtain ⟨itemsFrom, totalFrom, items, total, same⟩ := genuine
  exact ⟨itemsFrom, totalFrom, getElem_of_prefix grown items, getElem_of_prefix grown total, same⟩

theorem PageSound.grow {key : Text} {kept : CachedPage}
    (sound : PageSound versions increments search key kept) (grown : versions <+: versions')
    (more : increments <+: increments') : PageSound versions' increments' search key kept where
  generation := Nat.le_trans sound.generation more.length_le
  items := by
    rw [take_of_grown more sound.generation]
    exact sound.items
  total := by
    rw [take_of_grown more sound.generation]
    exact sound.total
  genuine := by
    obtain ⟨scope, filter, keyed, genuine⟩ := sound.genuine
    exact ⟨scope, filter, keyed, genuine.grow grown⟩

end Growth

namespace Catalog

/-- What holds in every run. -/
structure Sound (search : TextSearch) (catalog : Catalog) : Prop where
  lawful : catalog.Lawful search
  begun : catalog.versions ≠ []
  counted : catalog.generation = catalog.increments.length
  bumps : ∀ write bump, catalog.bumps.get write = some bump → write < catalog.versions.length
  written : ∀ write ∈ catalog.increments, write < catalog.versions.length
  incremented : ∀ write bump, catalog.bumps.get write = some bump → bump.phase = .incremented →
    write ∈ catalog.increments
  announced : ∀ write ∈ catalog.announced, write ∈ catalog.increments
  loads : ∀ number load, catalog.loads.get number = some load →
    (∀ write ∈ load.announced, write ∈ catalog.increments) ∧
      PhaseSound catalog.versions catalog.increments load.announced load.phase
  pages : ∀ replica key kept, (catalog.caches replica).get key = some kept →
    PageSound catalog.versions catalog.increments search key kept

namespace Sound

variable {search : TextSearch} {catalog : Catalog}

theorem initial (search : TextSearch) (rows : List CatalogRow) :
    Sound search { versions := [rows] } where
  lawful := {
    fresh := fun _ member => by cases member
    genuine := fun _ member => by cases member
    bounded := fun _ => Nat.zero_le _ }
  begun := List.cons_ne_nil _ _
  counted := rfl
  bumps := fun _ _ found => by cases found
  written := fun _ member => by cases member
  incremented := fun _ _ found => by cases found
  announced := fun _ member => by cases member
  loads := fun _ _ found => by cases found
  pages := fun _ _ _ found => by cases found

section

variable (sound : Sound search catalog)

include sound

theorem setPhase {number : Nat} {load : PageLoad} {phase : LoadPhase}
    (found : catalog.loads.get number = some load)
    (next : PhaseSound catalog.versions catalog.increments load.announced phase) :
    Sound search (catalog.setPhase number load phase) :=
  { sound with
    lawful := ⟨sound.lawful.fresh, sound.lawful.genuine, sound.lawful.bounded⟩
    loads := forall_set ⟨(sound.loads number load found).1, next⟩ sound.loads }

theorem answer {number : Nat} {load : PageLoad}
    {page : PaginatedAgentList} {itemsVersion totalVersion : Nat}
    (fresh : ∀ write ∈ load.announced, write ≤ itemsVersion ∧ write ≤ totalVersion)
    (genuine : PageOf catalog.versions search load.scope load.filter page itemsVersion
      totalVersion) :
    Sound search (catalog.answer number load page itemsVersion totalVersion) :=
  { sound with
    lawful := ⟨forall_mem_concat sound.lawful.fresh fresh,
      forall_mem_concat sound.lawful.genuine genuine, sound.lawful.bounded⟩
    loads := by
      intro other second also
      have before : catalog.loads.get other = some second := by
        have erased : (catalog.loads.erase number).get other = some second := also
        rw [get_erase] at erased
        split_ifs at erased
        exact erased
      exact sound.loads other second before }

theorem setCache {replica : Nat} (kept : ∀ key page, entries.get key = some page →
      PageSound catalog.versions catalog.increments search key page)
    (few : entries.size ≤ maxCatalogPages) : Sound search (catalog.setCache replica entries) :=
  { sound with
    lawful := by
      refine ⟨sound.lawful.fresh, sound.lawful.genuine, fun other => ?_⟩
      simp only [Catalog.setCache, Function.update_apply]
      split_ifs
      · exact few
      · exact sound.lawful.bounded other
    pages := by
      intro other key page found
      simp only [Catalog.setCache, Function.update_apply] at found
      split_ifs at found
      · exact kept key page found
      · exact sound.pages other key page found }

theorem clearCache (replica : Nat) :
    Sound search (catalog.setCache replica .empty) :=
  sound.setCache (fun _ _ found => by cases found) (Nat.zero_le _)

theorem write (replica : Nat) (rows : List CatalogRow) :
    Sound search (catalog.step search (.write replica rows)) := by
  have versions : catalog.versions <+: catalog.versions ++ [rows] := List.prefix_append _ _
  have longer : catalog.versions.length < (catalog.versions ++ [rows]).length := by
    rw [List.length_append]
    exact Nat.lt_succ_self _
  exact {
    lawful := ⟨sound.lawful.fresh,
      fun answer member => PageOf.grow (sound.lawful.genuine answer member) versions,
      sound.lawful.bounded⟩
    begun := List.append_ne_nil_of_right_ne_nil _ (List.cons_ne_nil _ _)
    counted := sound.counted
    bumps := forall_set longer fun write bump earlier =>
      Nat.lt_trans (sound.bumps write bump earlier) longer
    written := fun write member => Nat.lt_trans (sound.written write member) longer
    incremented := forall_set (fun reached => by cases reached) sound.incremented
    announced := sound.announced
    loads := fun number load found => ⟨(sound.loads number load found).1,
      (sound.loads number load found).2.grow versions (List.prefix_refl _)⟩
    pages := fun replica key kept found =>
      (sound.pages replica key kept found).grow versions (List.prefix_refl _) }

theorem advance {version : Nat} {phase next : BumpPhase} {change : Bump → Catalog → Catalog}
    (keeps : ∀ bump, catalog.bumps.get version = some bump → bump.phase = phase →
      version < catalog.versions.length → Sound search
        (change bump
          { catalog with bumps := catalog.bumps.set version { bump with phase := next } })) :
    Sound search (catalog.advance version phase next change) := by
  unfold Catalog.advance
  split
  · exact sound
  · rename_i bump found
    split_ifs with reached
    · exact keeps bump found reached (sound.bumps version bump found)
    · exact sound

theorem setBump {version : Nat} (bump : Bump) (old : version < catalog.versions.length)
    (incremented : bump.phase = .incremented → version ∈ catalog.increments) :
    Sound search { catalog with bumps := catalog.bumps.set version bump } :=
  { sound with
    lawful := ⟨sound.lawful.fresh, sound.lawful.genuine, sound.lawful.bounded⟩
    bumps := forall_set old sound.bumps
    incremented := forall_set incremented sound.incremented }

theorem clear (version : Nat) :
    Sound search (catalog.step search (.clear version)) := by
  simp only [step]
  refine sound.advance fun bump found reached old => ?_
  have told := sound.setBump { bump with phase := .cleared } old (fun refuted => by cases refuted)
  exact told.clearCache bump.replica

theorem increment (version : Nat) :
    Sound search (catalog.step search (.increment version)) := by
  simp only [step]
  refine sound.advance fun bump found reached old => ?_
  have more : catalog.increments <+: catalog.increments ++ [version] := List.prefix_append _ _
  exact {
    lawful := ⟨sound.lawful.fresh, sound.lawful.genuine, sound.lawful.bounded⟩
    begun := sound.begun
    counted := by
      simp only [List.length_append, List.length_singleton, sound.counted]
    bumps := forall_set old sound.bumps
    written := forall_mem_concat sound.written old
    incremented := forall_set (fun _ => List.mem_append_right _ (List.mem_singleton.mpr rfl))
      fun write other earlier reached =>
        List.mem_append_left _ (sound.incremented write other earlier reached)
    announced := fun write member => List.mem_append_left _ (sound.announced write member)
    loads := fun number load found =>
      ⟨fun write member => List.mem_append_left _ ((sound.loads number load found).1 write member),
        (sound.loads number load found).2.grow (List.prefix_refl _) more⟩
    pages := fun replica key kept found =>
      (sound.pages replica key kept found).grow (List.prefix_refl _) more }

theorem complete (version : Nat) :
    Sound search (catalog.step search (.complete version)) := by
  simp only [step]
  refine sound.advance fun bump found reached old => ?_
  have told := sound.setBump { bump with phase := .completed } old (fun refuted => by cases refuted)
  exact { told with
    lawful := ⟨told.lawful.fresh, told.lawful.genuine, told.lawful.bounded⟩
    announced := forall_mem_concat sound.announced (sound.incremented version bump found reached) }

theorem start (replica : Nat) (scope : AgentCatalogScope) (filter : AgentListFilter) :
    Sound search (catalog.step search (.start replica scope filter)) :=
  { sound with
    lawful := ⟨sound.lawful.fresh, sound.lawful.genuine, sound.lawful.bounded⟩
    loads := forall_set ⟨sound.announced, trivial⟩ sound.loads }

variable (number : Nat)

theorem readGeneration :
    Sound search (catalog.step search (.readGeneration number)) := by
  simp only [step]
  split
  · rename_i load found
    split
    · refine sound.setPhase found fun told among => ?_
      have precisely : told = catalog.increments.length := by
        rw [confirmed] at among
        split_ifs at among
        · rw [← Option.mem_some.mp among, sound.counted]
        · cases among
      rw [precisely, List.take_length]
      exact ⟨Nat.le_refl _, (sound.loads number load found).1⟩
    · exact sound
  · exact sound

theorem readFails :
    Sound search (catalog.step search (.readFails number)) := by
  simp only [step]
  split
  · rename_i load found
    split
    · exact sound.setPhase found fun told among => by cases among
    · exact sound
  · exact sound

theorem saw_now {announced : List Nat} {generation : Option Nat}
    (written : ∀ write ∈ announced, write ∈ catalog.increments) :
    Saw catalog.versions catalog.increments announced generation
      (catalog.version, catalog.rows) where
  rows := by
    have nonempty : 0 < catalog.versions.length := List.length_pos_of_ne_nil sound.begun
    have last : catalog.versions.length - 1 < catalog.versions.length := by omega
    simp only [Catalog.rows, Catalog.version, List.getLastD_eq_getLast?, List.getLast?_eq_getElem?]
    rw [List.getElem?_eq_getElem last, Option.getD_some]
  announced := by
    intro write member
    have before := sound.written write (written write member)
    simp only [Catalog.version]
    omega
  generation := by
    intro told _ write member
    have before := sound.written write (List.mem_of_mem_take member)
    simp only [Catalog.version]
    omega

theorem readItems :
    Sound search (catalog.step search (.readItems number)) := by
  simp only [step]
  split
  · rename_i load found
    split
    · rename_i generation total reached
      obtain ⟨written, place⟩ := sound.loads number load found
      rw [reached] at place
      refine sound.setPhase found ⟨place.1, fun seen among => ?_, place.2.2⟩
      rw [← Option.mem_some.mp among]
      exact sound.saw_now written
    · exact sound
  · exact sound

theorem readTotal :
    Sound search (catalog.step search (.readTotal number)) := by
  simp only [step]
  split
  · rename_i load found
    split
    · rename_i generation items reached
      obtain ⟨written, place⟩ := sound.loads number load found
      rw [reached] at place
      refine sound.setPhase found ⟨place.1, place.2.1, fun seen among => ?_⟩
      rw [← Option.mem_some.mp among]
      exact sound.saw_now written
    · exact sound
  · exact sound

/-- A load is told the generation and looks at the cache. -/
theorem resume :
    Sound search (catalog.step search (.resume number)) := by
  simp only [step]
  split
  · rename_i load found
    split
    · rename_i generation reached
      obtain ⟨written, place⟩ := sound.loads number load found
      rw [reached] at place
      have blank : ∀ {generation : Option Nat},
          (∀ told ∈ generation, told ≤ catalog.increments.length) →
          PhaseSound catalog.versions catalog.increments load.announced
            (.reading generation none none) :=
        fun few => ⟨few, fun _ among => (by cases among), fun _ among => (by cases among)⟩
      unfold resumed
      split
      · exact (sound.clearCache load.replica).setPhase found
          (blank fun _ among => by cases among)
      · rename_i told
        obtain ⟨few, covered⟩ := place told rfl
        have fewer : ∀ other ∈ some told, other ≤ catalog.increments.length := by
          intro other among
          rw [← Option.mem_some.mp among]
          exact few
        simp only
        split
        · exact sound.setPhase found (blank fewer)
        · rename_i hit there
          have kept := sound.pages _ _ _ there
          split_ifs with current
          · refine (sound.setCache ?_ ?_).answer ?_ ?_
            · intro key page cached
              rcases get_set_cases cached with ⟨rfl, rfl⟩ | ⟨_, earlier⟩
              · exact kept
              · rw [get_erase] at earlier
                split_ifs at earlier
                exact sound.pages _ _ _ earlier
            · rw [size_refreshed there]
              exact sound.lawful.bounded load.replica
            · intro write member
              have before := covered write member
              rw [← current] at before
              exact ⟨kept.items write before, kept.total write before⟩
            · obtain ⟨scope, filter, keyed, itemsFrom, totalFrom, items, total, same⟩ :=
                kept.genuine
              refine ⟨itemsFrom, totalFrom, items, total, ?_⟩
              rw [same]
              exact (findPage_of_key search keyed itemsFrom totalFrom).symm
          · exact sound.setPhase found (blank fewer)
    · exact sound
  · exact sound

theorem finish :
    Sound search (catalog.step search (.finish number)) := by
  simp only [step]
  split
  · rename_i load found
    split
    · rename_i generation items total reached
      obtain ⟨written, place⟩ := sound.loads number load found
      rw [reached] at place
      obtain ⟨few, sawItems, sawTotal⟩ := place
      have itemsSeen := sawItems items rfl
      have totalSeen := sawTotal total rfl
      have fresh : ∀ write ∈ load.announced, write ≤ items.1 ∧ write ≤ total.1 :=
        fun write member => ⟨itemsSeen.announced write member, totalSeen.announced write member⟩
      have genuine : PageOf catalog.versions search load.scope load.filter
          (findPage search items.2 total.2 load.scope load.filter) items.1 total.1 :=
        ⟨items.2, total.2, itemsSeen.rows, totalSeen.rows, rfl⟩
      unfold finished
      cases generation with
      | none => exact sound.answer fresh genuine
      | some told =>
        refine (sound.setCache ?_ ?_).answer fresh genuine
        · intro key page cached
          rcases of_get_remember cached with ⟨rfl, rfl⟩ | earlier
          · exact {
              generation := few told rfl
              items := itemsSeen.generation told rfl
              total := totalSeen.generation told rfl
              genuine := ⟨load.scope, load.filter, rfl, genuine⟩ }
          · exact sound.pages _ _ _ earlier
        · exact length_withinLimit _ _
    · exact sound
  · exact sound

/-- Every action keeps the pages sound. -/
theorem step (action : CatalogAction) :
    Sound search (catalog.step search action) := by
  cases action with
  | write replica rows => exact sound.write replica rows
  | clear version => exact sound.clear version
  | increment version => exact sound.increment version
  | complete version => exact sound.complete version
  | start replica scope filter => exact sound.start replica scope filter
  | readGeneration number => exact sound.readGeneration number
  | readFails number => exact sound.readFails number
  | resume number => exact sound.resume number
  | readItems number => exact sound.readItems number
  | readTotal number => exact sound.readTotal number
  | finish number => exact sound.finish number

end

end Sound

end Catalog

/-- Queries with the same key have the same page in every state of the database; and in every run
of any number of replicas, a load returns no page that was read before a write whose announcement
was complete when the load began, what it returns is a page of its query, and no replica keeps more
pages than it may. -/
theorem catalog_pages_lawful (search : TextSearch) :
    (∀ scope filter scope' filter',
      agentCatalogPageKey scope filter = agentCatalogPageKey scope' filter' →
        ∀ itemsFrom totalFrom, findPage search itemsFrom totalFrom scope filter =
          findPage search itemsFrom totalFrom scope' filter') ∧
      ∀ (rows : List CatalogRow) (actions : List CatalogAction),
        (run (Catalog.step search) { versions := [rows] } actions).Lawful search := by
  refine ⟨fun _ _ _ _ same => findPage_of_key search same, fun rows actions => ?_⟩
  have keeps : ∀ (catalog : Catalog) (action : CatalogAction), catalog.Sound search →
      (catalog.step search action).Sound search := fun _ action sound => sound.step action
  have initially := Catalog.Sound.initial search rows
  exact (run_invariant (Catalog.step search) keeps initially actions).lawful

end PlugHub.CatalogPages
