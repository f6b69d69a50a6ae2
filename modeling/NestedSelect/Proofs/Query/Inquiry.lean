import NestedSelect.Proofs.Query.Discovery

/-!
Asking an introspector that always gives the same answers.

What asking comes to is then a function of the tables and of the listings before (`give`). Asked
again about the tables that are still without columns, such an introspector fails as it failed
before, or it leaves these tables without columns once more.
-/

namespace NestedSelect

variable {σ α β : Type}

theorem findSome?_filter_of_none {kept : α → Bool} {pick : α → Option β} {items : List α}
    (dropped : ∀ item ∈ items, kept item = false → pick item = none) :
    (items.filter kept).findSome? pick = items.findSome? pick := by
  induction items with
  | nil => rfl
  | cons item rest ih =>
      have next := ih (fun other inside => dropped other (List.mem_cons_of_mem item inside))
      cases keep : kept item with
      | true => simp only [List.filter_cons, keep, if_true, List.findSome?_cons, next]
      | false =>
          simp [keep, next, dropped item List.mem_cons_self keep]

theorem findSome?_eraseDups [BEq α] [LawfulBEq α] (pick : α → Option β) (items : List α) :
    items.eraseDups.findSome? pick = items.findSome? pick := by
  induction length : items.length using Nat.strongRecOn generalizing items with
  | _ n ih =>
      cases items with
      | nil => rfl
      | cons item rest =>
          rw [List.eraseDups_cons, List.findSome?_cons, List.findSome?_cons]
          cases found : pick item with
          | some _ => rfl
          | none =>
              have shorter : (rest.filter (fun other => !other == item)).length < n := by
                have := List.length_filter_le (fun other => !other == item) rest
                simp only [List.length_cons] at length
                omega
              rw [ih _ shorter _ rfl]
              apply findSome?_filter_of_none
              intro other _ same
              simp only [Bool.not_eq_false', beq_iff_eq] at same
              rw [same, found]

/-- Answers about the columns of tables, one by one and together. -/
structure TableAnswers where
  one : String → Outcome (List Value)
  many : List String → Outcome (List (String × List Value))

/-- An introspector that gives the same answers each time. What it says of a table in an answer
about many does not depend on which other tables it is asked about. -/
structure Introspector.Steady (introspector : Introspector σ) (awaits : Bool)
    (answers : TableAnswers) : Prop where
  one : ∀ table world, (ask awaits (introspector.columnsOf table) world).1 = answers.one table
  many : ∀ tables world,
    (ask awaits (introspector.columnsOfMany tables) world).1 = answers.many tables
  agree : ∀ tables found, answers.many tables = .ok found → ∀ fewer ⊆ tables, fewer ≠ [] →
    ∃ less, answers.many fewer = .ok less ∧ ∀ table ∈ fewer,
      Record.get? table (Record.merge [] less) = Record.get? table (Record.merge [] found)

def columnsListed (listings : List (String × List Value)) (table : String) : List Value :=
  (Record.get? table listings).getD []

def isUnlisted (listings : List (String × List Value)) (table : String) : Bool :=
  (columnsListed listings table).isEmpty

namespace TableAnswers

variable (answers : TableAnswers)

def fault? (table : String) : Option Fault :=
  match answers.one table with
  | .ok _ => none
  | .error fault => some fault

def list : List String → List (String × List Value) → List (String × List Value)
  | [], listings => listings
  | table :: rest, listings =>
      match answers.one table with
      | .ok columns => list rest (Record.put table columns listings)
      | .error _ => listings

def give (answers? : Option TableAnswers) (together : Bool) (asked : List String)
    (listings : List (String × List Value)) : Outcome Unit × List (String × List Value) :=
  match asked, answers? with
  | [], _ => (.ok (), listings)
  | table :: _, none => (.error (.noIntrospector table), listings)
  | asked, some answers =>
      if together then
        match answers.many asked with
        | .ok found => (.ok (), Record.merge listings found)
        | .error fault => (.error fault, listings)
      else
        ((asked.findSome? answers.fault?).elim (.ok ()) .error, answers.list asked listings)

variable {answers} {asked : List String} {listings : List (String × List Value)}

theorem get?_list (answers : TableAnswers) (asked : List String)
    (listings : List (String × List Value)) (table : String) :
    Record.get? table (answers.list asked listings) = Record.get? table listings ∨
      ∃ columns, answers.one table = .ok columns ∧
        Record.get? table (answers.list asked listings) = some columns := by
  induction asked generalizing listings with
  | nil => exact .inl rfl
  | cons first rest ih =>
      unfold list
      split
      · rename_i columns answered
        rcases ih (Record.put first columns listings) with same | told
        · by_cases here : table = first
          · subst here
            rw [same, Record.get?_put_self]
            exact .inr ⟨columns, answered, rfl⟩
          · rw [same, Record.get?_put_of_ne here]
            exact .inl rfl
        · exact .inr told
      · exact .inl rfl

theorem get?_list_of_mem (listings : List (String × List Value)) {table : String}
    (inside : table ∈ asked) (answered : asked.findSome? answers.fault? = none) : ∃ columns,
      answers.one table = .ok columns ∧
        Record.get? table (answers.list asked listings) = some columns := by
  induction asked generalizing listings with
  | nil => cases inside
  | cons first rest ih =>
      rw [List.findSome?_cons] at answered
      cases told : answers.one first with
      | error fault => simp [fault?, told] at answered
      | ok columns =>
          simp only [fault?, told] at answered
          simp only [list, told]
          by_cases later : table ∈ rest
          · exact ih _ later answered
          · have here : table = first := (List.mem_cons.1 inside).resolve_right later
            subst here
            rcases get?_list answers rest (Record.put table columns listings) table with
              same | again
            · rw [same, Record.get?_put_self]
              exact ⟨columns, told, rfl⟩
            · exact again

theorem give_some (answers : TableAnswers) (together : Bool) (some_ : asked ≠ []) :
    give (some answers) together asked listings =
      if together then
        match answers.many asked with
        | .ok found => (.ok (), Record.merge listings found)
        | .error fault => (.error fault, listings)
      else
        ((asked.findSome? answers.fault?).elim (.ok ()) .error, answers.list asked listings) := by
  cases asked with
  | nil => exact absurd rfl some_
  | cons => rfl

theorem fault?_of_listed {table : String}
    (listed : isUnlisted (answers.list asked listings) table = false)
    (before : isUnlisted listings table = true) : answers.fault? table = none := by
  rcases get?_list answers asked listings table with same | ⟨columns, told, _⟩
  · simp [isUnlisted, columnsListed, same] at listed before
    exact absurd before listed
  · simp only [fault?, told]

theorem give_again_error {answers? : Option TableAnswers} {together : Bool} {tables : List String}
    {fault : Fault} {after : List (String × List Value)}
    (clear : ∀ table ∈ tables, isUnlisted listings table = true)
    (failed : give answers? together tables.eraseDups listings = (.error fault, after)) :
    (give answers? together (tables.filter (isUnlisted after)).eraseDups after).1 =
      .error fault := by
  have whole : (tables.filter (isUnlisted listings)) = tables := List.filter_eq_self.2 clear
  have asking : tables.eraseDups ≠ [] := by
    intro nothing
    rw [nothing] at failed
    cases failed
  cases answers? with
  | none =>
      obtain ⟨first, rest, some_⟩ := List.exists_cons_of_ne_nil asking
      rw [some_] at failed
      cases failed
      rw [whole, some_]
      rfl
  | some answers =>
      rw [give_some answers together asking] at failed
      cases together with
      | true =>
          simp only [if_true] at failed
          split at failed
          · cases failed
          · rename_i refused
            cases failed
            rw [whole, give_some answers true asking]
            simp only [if_true, refused]
      | false =>
          simp only [Bool.false_eq_true, if_false, findSome?_eraseDups] at failed
          obtain ⟨refused, rfl⟩ := Prod.mk.inj failed
          have dropped : ∀ table ∈ tables,
              isUnlisted (answers.list tables.eraseDups listings) table = false →
                answers.fault? table = none :=
            fun table inside listed => fault?_of_listed listed (clear table inside)
          have same := findSome?_filter_of_none dropped
          generalize (tables.filter (isUnlisted (answers.list tables.eraseDups listings))) = left
            at same
          have asking : left.eraseDups ≠ [] := by
            intro nothing
            rw [← findSome?_eraseDups, nothing] at same
            rw [← same] at refused
            cases refused
          rw [give_some answers false asking]
          simp only [Bool.false_eq_true, if_false, findSome?_eraseDups, same, refused]

theorem isUnlisted_merge_again {found less : List (String × List Value)} {table : String}
    (same : Record.get? table (Record.merge [] less) = Record.get? table (Record.merge [] found))
    (unlisted : isUnlisted (Record.merge listings found) table = true) :
    isUnlisted (Record.merge (Record.merge listings found) less) table = true := by
  simp only [isUnlisted, columnsListed, Record.get?_merge table (Record.merge _ _),
    Record.get?_merge table listings, same] at unlisted ⊢
  cases told : Record.get? table (Record.merge [] found) <;> simpa [told] using unlisted

theorem isUnlisted_list_again {fewer : List String} {table : String}
    (answered : asked.findSome? answers.fault? = none)
    (again : fewer.findSome? answers.fault? = none) (there : table ∈ asked)
    (inside : table ∈ fewer)
    (unlisted : isUnlisted (answers.list asked listings) table = true) :
    isUnlisted (answers.list fewer (answers.list asked listings)) table = true := by
  obtain ⟨columns, told, listed⟩ := get?_list_of_mem listings there answered
  obtain ⟨also, toldAgain, listedAgain⟩ :=
    get?_list_of_mem (answers.list asked listings) inside again
  cases told.symm.trans toldAgain
  simp only [isUnlisted, columnsListed, listed, listedAgain] at unlisted ⊢
  exact unlisted

theorem give_again_ok {together : Bool} {tables : List String}
    {after : List (String × List Value)} {answers? : Option TableAnswers}
    (agree : ∀ answers, answers? = some answers → ∀ tables found, answers.many tables = .ok found →
      ∀ fewer ⊆ tables, fewer ≠ [] → ∃ less, answers.many fewer = .ok less ∧ ∀ table ∈ fewer,
        Record.get? table (Record.merge [] less) = Record.get? table (Record.merge [] found))
    (done : give answers? together tables.eraseDups listings = (.ok (), after)) :
    let left := (tables.filter (isUnlisted after)).eraseDups
    (give answers? together left after).1 = .ok () ∧
      ∀ table ∈ left, isUnlisted (give answers? together left after).2 table = true := by
  intro left
  have leftOut : ∀ table ∈ left, table ∈ tables.eraseDups ∧ isUnlisted after table = true := by
    intro table inside
    obtain ⟨there, unlisted⟩ := List.mem_filter.1 (List.mem_eraseDups.1 inside)
    exact ⟨List.mem_eraseDups.2 there, unlisted⟩
  by_cases asking : left = []
  · rw [asking]
    exact ⟨rfl, List.forall_mem_nil _⟩
  have askingFirst : tables.eraseDups ≠ [] := by
    intro nothing
    obtain ⟨first, rest, some_⟩ := List.exists_cons_of_ne_nil asking
    have inside := (leftOut first (by simp [some_])).1
    simp [nothing] at inside
  cases answers? with
  | none =>
      obtain ⟨first, rest, some_⟩ := List.exists_cons_of_ne_nil askingFirst
      rw [some_] at done
      cases done
  | some answers =>
      rw [give_some answers together askingFirst] at done
      rw [give_some answers together asking]
      cases together with
      | true =>
          simp only [if_true] at done ⊢
          split at done
          · rename_i found answered
            obtain ⟨-, rfl⟩ := Prod.mk.inj done
            obtain ⟨less, again, same⟩ := agree answers rfl _ found answered left
              (fun table inside => (leftOut table inside).1) asking
            simp only [again, true_and]
            intro table inside
            exact isUnlisted_merge_again (same table inside) (leftOut table inside).2
          · cases done
      | false =>
          simp only [Bool.false_eq_true, if_false] at done ⊢
          obtain ⟨answered, rfl⟩ := Prod.mk.inj done
          have answered : tables.eraseDups.findSome? answers.fault? = none := by
            cases failed : tables.eraseDups.findSome? answers.fault? with
            | none => rfl
            | some fault => simp [failed] at answered
          have again : left.findSome? answers.fault? = none := by
            rw [List.findSome?_eq_none_iff] at answered ⊢
            exact fun table inside => answered table (leftOut table inside).1
          refine ⟨by rw [again]; rfl, ?_⟩
          intro table inside
          obtain ⟨there, unlisted⟩ := leftOut table inside
          exact isUnlisted_list_again answered again there inside unlisted

end TableAnswers

namespace Query

variable {query : Query} {world : σ} {awaits : Bool} {answers : TableAnswers}

theorem introspectEach_steady {introspector : Introspector σ}
    (steady : introspector.Steady awaits answers) (asked : List String) (query : Query)
    (world : σ) : ∃ after, introspectEach awaits introspector asked query world =
      (((asked.findSome? answers.fault?).elim (.ok ()) .error,
        query.listing (answers.list asked query.listings)), after) := by
  induction asked generalizing query world with
  | nil => exact ⟨world, rfl⟩
  | cons table rest ih =>
      have same := steady.one table world
      cases answered : ask awaits (introspector.columnsOf table) world with
      | mk result between =>
          rw [answered] at same
          unfold introspectEach TableAnswers.list
          simp only [List.findSome?_cons, TableAnswers.fault?, ← same]
          cases result with
          | error fault => exact ⟨between, Work.bind_of_error (Work.perform_apply answered query)⟩
          | ok columns =>
              obtain ⟨after, done⟩ :=
                ih (query.listing (Record.put table columns query.listings)) between
              exact ⟨after, (Work.bind_of_ok (Work.perform_apply answered query)).trans done⟩

theorem introspectPending_steady {introspector? : Option (Introspector σ)}
    (steady : ∀ introspector, introspector? = some introspector →
      introspector.Steady awaits answers) (asked : List String) (query : Query) (world : σ) :
    let given := TableAnswers.give (introspector?.map (fun _ => answers))
      query.setup.generator.dialect.batchIntrospection.isTruthy asked query.listings
    ∃ after, introspectPending awaits introspector? asked query world =
      ((given.1, query.listing given.2), after) := by
  cases asked with
  | nil => exact ⟨world, rfl⟩
  | cons table rest =>
      cases introspector? with
      | none => exact ⟨world, rfl⟩
      | some introspector =>
          have steady := steady introspector rfl
          unfold introspectPending introspect
          simp only [Option.map_some, TableAnswers.give]
          rw [Work.get_bind]
          cases query.setup.generator.dialect.batchIntrospection.isTruthy with
          | false => exact introspectEach_steady steady _ query world
          | true =>
              have same := steady.many (table :: rest) world
              cases answered : ask awaits (introspector.columnsOfMany (table :: rest)) world with
              | mk result between =>
                  rw [answered] at same
                  simp only [if_true, ← same]
                  have performed := Work.perform_apply answered query
                  cases result with
                  | error fault => exact ⟨between, Work.bind_of_error performed⟩
                  | ok found => exact ⟨between, Work.bind_of_ok performed⟩

end Query

end NestedSelect
