import Crontab.Proofs.Store.Equivalence
import Crontab.Proofs.Store.Views

/-!
# Stores that share what they keep

Several stores keep their records on one server or in one table, and are called in any order.  If each
of them sees only a view of its own, and leaves alone what the others see, then each of them answers
as if it were alone.

* `Tenancy`, `Call` — stores on common hosts, and calls to them;
* `Tenancy.Shares` — stores that carry out their requests on media with a common state;
* `Tenancy.IsAlone` — stores that do not notice each other;
* `Tenancy.Shares.isAlone` — stores with views of their own;
* `Tenancy.isolated_onServer` — stores on a server.
-/

namespace Crontab

open Time

/-- A request to one of several stores, with the time and the source of identifiers that it finds. -/
structure Call (ι : Type) where
  tenant : ι
  request : Request
  wall : Wall
  issuer : Issuer := .initial

/-- Stores on common hosts. -/
structure Tenancy (ι : Type) where
  stores : ι → Store
  hosts : Hosts := {}

namespace Tenancy

variable {ι : Type}

/-- What a call leads to. -/
def outcome (tenancy : Tenancy ι) (call : Call ι) : Outcome (Store × Hosts) :=
  (tenancy.stores call.tenant).perform tenancy.hosts call.request (.universal call.wall) call.issuer

/-! ## A common state -/

/-- The stores carry out their requests on media with a common state, which is read from the hosts
and written back to them. -/
structure Shares {σ : Type} (tenancy : Tenancy ι) (medium : ι → Medium σ) (read : Hosts → σ)
    (write : Hosts → σ → Hosts) : Prop where
  read_write : ∀ hosts state, read (write hosts state) = state
  perform : ∀ tenant hosts request now issuer,
    (tenancy.stores tenant).perform hosts request now issuer =
      ((medium tenant).perform (read hosts) request now issuer).map fun state =>
        (tenancy.stores tenant, write hosts state)

/-- A call does to the common state what its medium does. -/
theorem Shares.outcome_eq {σ : Type} {tenancy : Tenancy ι} {medium : ι → Medium σ}
    {read : Hosts → σ} {write : Hosts → σ → Hosts} (h : tenancy.Shares medium read write)
    (call : Call ι) :
    tenancy.outcome call =
      ((medium call.tenant).perform (read tenancy.hosts) call.request (.universal call.wall)
        call.issuer).map fun state => (tenancy.stores call.tenant, write tenancy.hosts state) :=
  h.perform call.tenant tenancy.hosts call.request (.universal call.wall) call.issuer

/-- Stores on a server share its texts. -/
theorem shares_onServer {tenancy : Tenancy ι} {start : ι → String} {address : ι → ServerAddress}
    (hStores : ∀ tenant, tenancy.stores tenant = .redis (.text (start tenant)) (address tenant) true) :
    tenancy.Shares (fun tenant => keyValueMedium (.text (start tenant))) Hosts.texts
      fun hosts texts => { hosts with texts } where
  read_write _ _ := rfl
  perform tenant hosts request now issuer := by
    rw [hStores]
    rfl

/-- Stores in a file share its table. -/
theorem shares_inFile {tenancy : Tenancy ι} {start : ι → String} {address : ι → DatabaseAddress}
    {path : String}
    (hStores : ∀ tenant,
      tenancy.stores tenant = .database (.text (start tenant)) (address tenant) (.file path)) :
    tenancy.Shares (fun tenant => tableMedium (.text (start tenant))) (Hosts.file · path)
      fun hosts table => hosts.withFile path table where
  read_write hosts table := file_withFile hosts path table
  perform tenant hosts request now issuer := by
    rw [hStores]
    rfl

/-! ## Runs of calls -/

variable [DecidableEq ι]

/-- The stores and the hosts after a call. -/
def next (tenancy : Tenancy ι) (call : Call ι) : Tenancy ι where
  stores := Function.update tenancy.stores call.tenant (tenancy.outcome call).state.1
  hosts := (tenancy.outcome call).state.2

/-- The stores and the hosts after a run of calls. -/
def after (tenancy : Tenancy ι) (calls : List (Call ι)) : Tenancy ι :=
  calls.foldl next tenancy

/-- The answers that one of the stores gives in a run of calls. -/
def answersTo (tenant : ι) (tenancy : Tenancy ι) : List (Call ι) → List (Except StoreError Reply)
  | [] => []
  | call :: calls =>
    if call.tenant = tenant then
      (tenancy.outcome call).reply :: (tenancy.next call).answersTo tenant calls
    else (tenancy.next call).answersTo tenant calls

/-- In a run of calls a store is as if it were alone: it answers as in the calls to it, and after the
run no call to another store changes what it answers next. -/
structure IsAlone (tenancy : Tenancy ι) (tenant : ι) (calls : List (Call ι)) : Prop where
  answers : tenancy.answersTo tenant calls =
    tenancy.answersTo tenant (calls.filter fun call => call.tenant = tenant)
  unchanged : ∀ call last : Call ι, call.tenant ≠ tenant → last.tenant = tenant →
    (((tenancy.after calls).next call).outcome last).reply =
      ((tenancy.after calls).outcome last).reply

namespace Shares

variable {σ : Type} {tenancy other : Tenancy ι} {medium : ι → Medium σ} {read : Hosts → σ}
  {write : Hosts → σ → Hosts} {view : σ → σ} {tenant : ι}

/-- The state after a call. -/
theorem read_next (h : tenancy.Shares medium read write) (call : Call ι) :
    read (tenancy.next call).hosts =
      ((medium call.tenant).perform (read tenancy.hosts) call.request (.universal call.wall)
        call.issuer).state := by
  rw [next, h.outcome_eq]
  exact h.read_write _ _

/-- A call leaves the stores as they are. -/
theorem next (h : tenancy.Shares medium read write) (call : Call ι) :
    (tenancy.next call).Shares medium read write := by
  have hStores : (tenancy.next call).stores = tenancy.stores := by
    rw [Tenancy.next, h.outcome_eq]
    exact Function.update_eq_self _ _
  refine ⟨h.read_write, ?_⟩
  rw [hStores]
  exact h.perform

/-- Stores with a common state have it after any run of calls. -/
theorem after (h : tenancy.Shares medium read write) (calls : List (Call ι)) :
    (tenancy.after calls).Shares medium read write := by
  induction calls generalizing tenancy with
  | nil => exact h
  | cons call calls ih => exact ih (h.next call)

/-- Two tenancies with the same view of a store answer a call to it in the same way, and have the same
view after it. -/
theorem outcome_congr (h : tenancy.Shares medium read write) (h' : other.Shares medium read write)
    {call : Call ι} (hSees : (medium call.tenant).SeesOnly view)
    (hView : view (read tenancy.hosts) = view (read other.hosts)) :
    (tenancy.outcome call).reply = (other.outcome call).reply ∧
      view (read (tenancy.next call).hosts) = view (read (other.next call).hosts) := by
  rw [h.read_next, h'.read_next, h.outcome_eq, h'.outcome_eq]
  exact hSees.perform_congr hView call.request (.universal call.wall) call.issuer

/-- By induction on the run: if a store sees only a view, and calls to the others leave that view
alone, then it answers as in the calls to it. -/
theorem answersTo_filter (h : tenancy.Shares medium read write)
    (h' : other.Shares medium read write) (hSees : (medium tenant).SeesOnly view)
    (hOthers : ∀ neighbour, neighbour ≠ tenant → ∀ state request now issuer,
      view ((medium neighbour).perform state request now issuer).state = view state)
    (hView : view (read tenancy.hosts) = view (read other.hosts)) (calls : List (Call ι)) :
    tenancy.answersTo tenant calls =
      other.answersTo tenant (calls.filter fun call => call.tenant = tenant) := by
  induction calls generalizing tenancy other with
  | nil => rfl
  | cons call calls ih =>
    by_cases hTenant : call.tenant = tenant
    · subst hTenant
      obtain ⟨hReply, hNext⟩ := h.outcome_congr h' hSees hView
      rw [List.filter_cons, if_pos (decide_eq_true rfl), answersTo, answersTo, if_pos rfl, if_pos rfl,
        hReply, ih (h.next call) (h'.next call) hNext]
    · have hNext : view (read (tenancy.next call).hosts) = view (read other.hosts) := by
        rw [h.read_next, hOthers _ hTenant, hView]
      rw [List.filter_cons_of_neg (by simpa using hTenant), answersTo, if_neg hTenant,
        ih (h.next call) h' hNext]

/-- **Alone.** A store that sees only a view, which calls to the others leave alone, is as if it were
alone. -/
theorem isAlone (h : tenancy.Shares medium read write) (hSees : (medium tenant).SeesOnly view)
    (hOthers : ∀ neighbour, neighbour ≠ tenant → ∀ state request now issuer,
      view ((medium neighbour).perform state request now issuer).state = view state)
    (calls : List (Call ι)) : tenancy.IsAlone tenant calls where
  answers := h.answersTo_filter h hSees hOthers rfl calls
  unchanged := by
    rintro call last hOther rfl
    have hAfter := h.after calls
    refine ((hAfter.next call).outcome_congr hAfter hSees ?_).1
    rw [hAfter.read_next, hOthers call.tenant hOther]

end Shares

/-! ## Stores on a server -/

section server

variable {tenancy : Tenancy ι} {start : ι → String} {address : ι → ServerAddress}

/-- **Stores on a server.** The search for a start finds exactly the keys with that start.  So, if no
start of a store is the start of another one, each store is as if it were alone in any run of calls. -/
theorem isolated_onServer
    (hStores : ∀ tenant, tenancy.stores tenant = .redis (.text (start tenant)) (address tenant) true)
    (hApart : ∀ tenant neighbour, tenant ≠ neighbour → AreApart (start tenant) (start neighbour)) :
    (∀ (texts : TextMap) (searched : String), TextMap.scan texts (scanPattern searched) =
      (Fields.names texts).filter fun key => searched.toList.isPrefixOf key.toList) ∧
    ∀ (calls : List (Call ι)) (tenant : ι), tenancy.IsAlone tenant calls := by
  refine ⟨fun texts searched => TextMap.scan_scanPattern searched texts, fun calls tenant => ?_⟩
  exact (shares_onServer hStores).isAlone (sees_keyValueMedium (start tenant))
    (fun neighbour hOther texts request now issuer =>
      keyValueMedium_preserves (hApart neighbour tenant hOther) texts request now issuer) calls

end server

/-- Two stores on a server whose starts end in characters that have a meaning in search patterns. -/
def onServerWithWildcards : Tenancy Bool where
  stores tenant := .redis (.text (if tenant then "job*" else "job?")) ⟨.null, .null, .null⟩ true

/-- A task is added to one of them, the other one is cleared, and the tasks of the first are listed. -/
def clearedBetween : List (Call Bool) :=
  [⟨true, .add (Session.retriedTask .null), Wall.first, .initial⟩,
   ⟨false, .clear, Wall.first, .initial⟩,
   ⟨true, .getAll, Wall.first, .initial⟩]

/-- On a server wildcards in the starts of keys do not make one store clear the other. -/
theorem isolated_onServer_withWildcards :
    AreApart "job*" "job?" ∧
      onServerWithWildcards.answersTo true clearedBetween =
        onServerWithWildcards.answersTo true
          [⟨true, .add (Session.retriedTask .null), Wall.first, .initial⟩,
           ⟨true, .getAll, Wall.first, .initial⟩] := by
  have hApart : AreApart "job*" "job?" := by decide
  have hOthers : ∀ tenant neighbour : Bool, tenant ≠ neighbour →
      AreApart (if tenant then "job*" else "job?") (if neighbour then "job*" else "job?") := by
    decide
  exact ⟨hApart, ((isolated_onServer (fun _ => rfl) hOthers).2 clearedBetween true).answers⟩

end Tenancy

end Crontab
