import Crontab.Proofs.Store.Tenancies

/-!
# Stores that share a table

Stores on one table find single records by their exact keys, but all of their records, and those to be
cleared, by searches in which neither the case of ASCII letters counts nor what follows a NUL
character.  Starts of which none is the start of another one keep single records apart, while listing
and clearing are only kept apart by starts whose searches do not find each other.

* `Tenancy.isolated_inFile` — what stores on one table do not change for each other;
* `Tenancy.find_after_clear` — clearing removes every record whose key the search finds;
* `Tenancy.cleared_inOtherCase` — starts that differ in the case of their letters.
-/

namespace Crontab

open Time

/-! ## Single records -/

/-- The replies to a search for one record and to its removal depend on what is found under its
key. -/
theorem reply_ofKey {start : String} {table other : Table} {id : Value} {request : Request}
    (h : table.find? (storeKey (.text start) id) = other.find? (storeKey (.text start) id))
    (hRequest : request = .get id ∨ request = .remove id) (now : Moment) (issuer : Issuer) :
    ((tableMedium (.text start)).perform table request now issuer).reply =
      ((tableMedium (.text start)).perform other request now issuer).reply := by
  rcases hRequest with rfl | rfl
  · have hFind : (tableMedium (.text start)).find table id =
        (tableMedium (.text start)).find other id := by
      simp only [tableMedium, h]
    rw [Medium.perform, Medium.perform, hFind]
    cases (tableMedium (.text start)).find other id <;> rfl
  · have hRemoved : (Table.delete table (storeKey (.text start) id)).1 =
        (Table.delete other (storeKey (.text start) id)).1 := by
      rw [Table.delete, Table.delete, h]
    exact congrArg (fun existed => Except.ok (Reply.removed existed)) hRemoved

/-- A search for a start finds the keys that have it. -/
theorem hasLikePrefix_of_hasStart {start key : String} (h : hasStart start key = true) :
    hasLikePrefix start key = true := by
  obtain ⟨rest, hRest⟩ := hasStart_iff.1 h
  have hKey : key = start ++ String.ofList rest := by
    rw [← String.toList_inj, String.toList_append, String.toList_ofList, hRest]
  rw [hKey]
  exact hasLikePrefix_append start _

namespace Tenancy

variable {ι : Type} {tenancy : Tenancy ι} {start : ι → String} {address : ι → DatabaseAddress}
  {path : String}

/-- What is listed is read from rows that the search finds. -/
theorem exists_rows_of_listed {write : Hosts → Table → Hosts}
    (h : tenancy.Shares (fun tenant => tableMedium (.text (start tenant))) (Hosts.file · path) write)
    {call : Call ι} (hCall : call.request = .getAll) {records : List Task}
    (hReply : (tenancy.outcome call).reply = .ok (.listed records)) :
    ∃ rows : List Row, rows.mapM rowTask = .ok records ∧
      ∀ row ∈ rows, row ∈ tenancy.hosts.file path ∧
        hasLikePrefix (start call.tenant) row.key = true := by
  rw [h.outcome_eq, hCall, Medium.perform] at hReply
  cases hList : (tableMedium (.text (start call.tenant))).list (tenancy.hosts.file path) with
  | error cause =>
    rw [hList] at hReply
    cases hReply
  | ok own =>
    rw [hList] at hReply
    obtain rfl := Reply.listed.inj (Except.ok.inj hReply)
    simp only [tableMedium, searchedStart_text, ok_bind, bind_eq_ok, mapError_eq_ok, Table.under]
      at hList
    obtain ⟨rows, hUnder, hRows⟩ := hList
    obtain ⟨_, -, rfl⟩ := map_eq_ok.1 hUnder
    exact ⟨_, hRows, fun row hRow => ⟨(List.mem_filter.1 hRow).1, (List.mem_filter.1 hRow).2⟩⟩

variable [DecidableEq ι]

/-- Searches that are apart keep the rows of the stores apart. -/
theorem isAlone_inFile
    (hStores : ∀ tenant,
      tenancy.stores tenant = .database (.text (start tenant)) (address tenant) (.file path))
    (hShort : ∀ tenant, isLongLikePattern (start tenant) = false)
    (hSearches : ∀ tenant neighbour, tenant ≠ neighbour →
      SearchesApart (start tenant) (start neighbour))
    (calls : List (Call ι)) (tenant : ι) : tenancy.IsAlone tenant calls := by
  refine (shares_inFile hStores).isAlone (sees_tableMedium (hShort tenant))
    (fun neighbour hOther table request now issuer => ?_) calls
  have hFound : ∀ key, hasLikePrefix (start neighbour) key = true →
      hasLikePrefix (start tenant) key = false := fun key hKey =>
    (hSearches neighbour tenant hOther).not_hasLikePrefix hKey
  exact tableMedium_preserves (fun id => hFound _ (hasLikePrefix_storeKey _ id)) (fun _ => hFound)
    table now issuer

/-- **Stores on one table.** If no start of a store is the start of another one, only clearing one of
them can change what another one finds or removes.  If, besides, no search finds another start, each
of them is as if it were alone in any run of calls, and lists no task under a key with the start of
another one. -/
theorem isolated_inFile
    (hStores : ∀ tenant,
      tenancy.stores tenant = .database (.text (start tenant)) (address tenant) (.file path))
    (hApart : ∀ tenant neighbour, tenant ≠ neighbour → AreApart (start tenant) (start neighbour)) :
    (∀ (calls : List (Call ι)) (call last : Call ι) (id : Value), call.tenant ≠ last.tenant →
      call.request ≠ .clear → (last.request = .get id ∨ last.request = .remove id) →
        (((tenancy.after calls).next call).outcome last).reply =
          ((tenancy.after calls).outcome last).reply) ∧
    ((∀ tenant, isLongLikePattern (start tenant) = false) →
      (∀ tenant neighbour, tenant ≠ neighbour → SearchesApart (start tenant) (start neighbour)) →
      (∀ (calls : List (Call ι)) (tenant : ι), tenancy.IsAlone tenant calls) ∧
      ∀ (calls : List (Call ι)) (last : Call ι) (records : List Task), last.request = .getAll →
        ((tenancy.after calls).outcome last).reply = .ok (.listed records) →
        ∃ rows : List Row, rows.mapM rowTask = .ok records ∧
          ∀ row ∈ rows, row ∈ (tenancy.after calls).hosts.file path ∧
            ∀ neighbour, neighbour ≠ last.tenant → hasStart (start neighbour) row.key = false) := by
  have hAfter := (shares_inFile hStores).after
  refine ⟨fun calls call last id hOther hClear hLast => ?_, fun hShort hSearches =>
    ⟨isAlone_inFile hStores hShort hSearches, fun calls last records hRequest hReply => ?_⟩⟩
  · have hRows : Table.within (hasStart (start last.tenant))
          ((tableMedium (.text (start call.tenant))).perform ((tenancy.after calls).hosts.file path)
            call.request (.universal call.wall) call.issuer).state =
        Table.within (hasStart (start last.tenant)) ((tenancy.after calls).hosts.file path) :=
      tableMedium_preserves
        (fun own => (hApart _ _ hOther).not_hasStart (hasStart_storeKey _ own))
        (fun hRequest => absurd hRequest hClear) _ _ _
    have hKey := hasStart_storeKey (start last.tenant) id
    rw [((hAfter calls).next call).outcome_eq, (hAfter calls).outcome_eq, (hAfter calls).read_next]
    refine reply_ofKey ?_ hLast _ _
    rw [← Table.find?_within hKey, hRows, Table.find?_within hKey]
  · obtain ⟨rows, hRows, hFound⟩ := exists_rows_of_listed (hAfter calls) hRequest hReply
    refine ⟨rows, hRows, fun row hRow => ⟨(hFound row hRow).1, fun neighbour hOther => ?_⟩⟩
    rw [Bool.eq_false_iff]
    intro hStart
    have hLike := hasLikePrefix_of_hasStart hStart
    rw [(hSearches _ _ hOther.symm).not_hasLikePrefix (hFound row hRow).2] at hLike
    cases hLike

/-- Two stores in a file whose starts are different words. -/
def inFileWithWords : Tenancy Bool where
  stores tenant := .database (.text (if tenant then "job:" else "work:")) ⟨.null, .null⟩
    (.file "tasks.db")

/-- In a file the store with one word is as if the one with another word were not there. -/
theorem isolated_inFile_withWords :
    SearchesApart "job:" "work:" ∧
      inFileWithWords.answersTo true clearedBetween =
        inFileWithWords.answersTo true
          [⟨true, .add (Session.retriedTask .null), Wall.first, .initial⟩,
           ⟨true, .getAll, Wall.first, .initial⟩] := by
  have hApart : ∀ tenant neighbour : Bool, tenant ≠ neighbour →
      AreApart (if tenant then "job:" else "work:") (if neighbour then "job:" else "work:") := by
    decide
  have hSearches : ∀ tenant neighbour : Bool, tenant ≠ neighbour →
      SearchesApart (if tenant then "job:" else "work:") (if neighbour then "job:" else "work:") := by
    decide
  have hShort : ∀ tenant : Bool,
      isLongLikePattern (if tenant then "job:" else "work:") = false := by decide
  refine ⟨by decide, ?_⟩
  exact (((isolated_inFile (fun _ => rfl) hApart).2 hShort hSearches).1 clearedBetween true).answers

/-! ## Starts that searches do not tell apart -/

/-- Clearing a store removes every record whose key its search finds, whatever store it belongs to. -/
theorem find_after_clear {own other : String} {id : Value} (hOwn : isLongLikePattern own = false)
    (hFound : hasLikePrefix own (storeKey (.text other) id) = true) (table : Table) (now : Moment)
    (issuer : Issuer) :
    (tableMedium (.text other)).find
      ((tableMedium (.text own)).perform table .clear now issuer).state id = .ok none := by
  have hClear : (tableMedium (.text own)).clear table =
      .ok (Table.within (fun key => !hasLikePrefix own key) table) := by
    simp only [tableMedium, searchedStart_text, ok_bind, deleteUnder_eq_ok hOwn]
    rfl
  have hNone : Table.find? (Table.within (fun key => !hasLikePrefix own key) table)
      (storeKey (.text other) id) = none := by
    rw [Table.find?, List.find?_eq_none]
    intro row hRow hKey
    have hLeft := (List.mem_filter.1 hRow).2
    dsimp only at hLeft
    rw [of_decide_eq_true hKey, hFound] at hLeft
    cases hLeft
  rw [Medium.perform, hClear]
  simp only [tableMedium, Except.map, Outcome.settle, hNone]

/-- Two stores in a file whose starts differ in the case of their letters. -/
def inFileWithLetters : Tenancy Bool where
  stores tenant := .database (.text (if tenant then "job:" else "JOB:")) ⟨.null, .null⟩
    (.file "tasks.db")

/-- Neither of these starts is the start of the other one, but clearing the second store removes the
task of the first. -/
theorem cleared_inOtherCase :
    AreApart "job:" "JOB:" ∧
      let wall := shortOffsetMoment.wall
      let list : Call Bool := ⟨true, .getAll, wall, .initial⟩
      let before := inFileWithLetters.next ⟨true, .add (Session.retriedTask (.int 2)), wall, .initial⟩
      (∃ record, (before.outcome list).reply = .ok (.listed [record]) ∧ record.id = .text "x") ∧
        ((before.next ⟨false, .clear, wall, .initial⟩).outcome list).reply = .ok (.listed []) := by
  refine ⟨by decide, ?_⟩
  intro wall list before
  have hShares := @shares_inFile Bool inFileWithLetters _ _ "tasks.db" fun _ => rfl
  have hBefore := hShares.next ⟨true, .add (Session.retriedTask (.int 2)), wall, .initial⟩
  have hAfter := hBefore.next ⟨false, .clear, wall, .initial⟩
  have hRecord : (Session.retriedRecord (.int 2)).IsRecord :=
    Session.isRecord_retriedRecord (.int (by decide))
  obtain ⟨row, hRow, hKey, hTells, -⟩ := tells_taskRow hRecord "job:"
  obtain ⟨record, hReads, hAlike, -⟩ := hTells.exists_record hRecord
  have hSaved : before.hosts.file "tasks.db" = [row] := by
    rw [hShares.read_next, Medium.perform_add _ _ (Session.create_retriedTask (.int 2))]
    simp only [tableMedium, if_true, hRow]
    rfl
  have hOwn : hasLikePrefix "job:" row.key = true := by
    rw [hKey]
    exact hasLikePrefix_storeKey "job:" _
  -- the search for the second start finds the row as well, as it ignores the case of letters
  have hOther : hasLikePrefix "JOB:" row.key = true := by
    rw [hKey]
    decide
  have hListed : (tableMedium (.text "job:")).list [row] = .ok [record] := by
    have hUnder : Table.under [row] "job:" = .ok [row] := by
      rw [under_eq_ok (by decide), Table.within, List.filter_singleton, hOwn]
      rfl
    simp only [tableMedium, searchedStart_text, ok_bind, hUnder, Except.mapError,
      List.mapM_cons, hReads]
    rfl
  have hCleared : (tableMedium (.text "JOB:")).clear [row] = .ok [] := by
    have hDelete : Table.deleteUnder [row] "JOB:" = .ok [] := by
      rw [deleteUnder_eq_ok (by decide), Table.within, List.filter_singleton, hOther]
      rfl
    simp only [tableMedium, searchedStart_text, ok_bind, hDelete, Except.mapError]
  refine ⟨⟨record, ?_, hAlike.id.symm⟩, ?_⟩
  · rw [hBefore.outcome_eq, hSaved]
    exact Medium.reply_getAll hListed _ _
  · rw [hAfter.outcome_eq, hBefore.read_next, hSaved]
    have hState : ((tableMedium (.text "JOB:")).perform [row] .clear (.universal wall)
        .initial).state = [] := by
      rw [Medium.perform, hCleared]
      rfl
    have hNone : (tableMedium (.text "job:")).list [] = .ok [] := rfl
    change ((tableMedium (.text "job:")).perform ((tableMedium (.text "JOB:")).perform [row] .clear
      (.universal wall) .initial).state .getAll (.universal wall) .initial).reply = _
    rw [hState]
    exact Medium.reply_getAll hNone _ _

end Tenancy

end Crontab
