import NestedSelect.Connection.Facade
import NestedSelect.Identifier

/-!
Listing the columns of many tables together agrees with listing those of each table alone.

Names are parted at the first dot, grouped by what stands before it, answered group by group and put
together again. Putting together undoes the parting (`listedName_splitTable`), so the answers of two
groups never get under one name. What a name denotes in the catalogue is said without parting it
(`Catalogue.Holds`).
-/

namespace NestedSelect

variable {σ : Type}

theorem Exchange.bind_of_ok {α β : Type} {exchange : Exchange σ α} {next : α → Exchange σ β} {a : α}
    {world after : σ} (done : exchange world = (.ok a, after)) :
    (exchange >>= next) world = next a after := by
  change ExceptT.bind exchange next world = _
  simp only [ExceptT.bind, ExceptT.mk, bind, StateT.bind, done, ExceptT.bindCont]

theorem Exchange.bind_of_error {α β : Type} {exchange : Exchange σ α} {next : α → Exchange σ β}
    {fault : Fault} {world after : σ} (failed : exchange world = (.error fault, after)) :
    (exchange >>= next) world = (.error fault, after) := by
  change ExceptT.bind exchange next world = _
  simp only [ExceptT.bind, ExceptT.mk, bind, StateT.bind, failed, ExceptT.bindCont]
  rfl

/-! ### Parting and joining -/

theorem Sql.splitTable_of_plain {table : String} (plain : '.' ∉ table.toList) :
    splitTable table = (none, table) := by
  have before : ∀ c ∈ table.toList, (c != '.') = true :=
    fun c inside => bne_iff_ne.2 (fun dot => plain (dot ▸ inside))
  have whole : table.toList.dropWhile (· != '.') = [] := by
    rw [← List.append_nil table.toList, List.dropWhile_append_of_pos before]
    rfl
  simp only [splitTable, whole]

theorem Sql.splitTable_append {area : String} (plain : '.' ∉ area.toList) (name : String) :
    splitTable (area ++ "." ++ name) = (some area, name) := by
  have before : ∀ c ∈ area.toList, (c != '.') = true :=
    fun c inside => bne_iff_ne.2 (fun dot => plain (dot ▸ inside))
  have spelled : (area ++ "." ++ name).toList = area.toList ++ '.' :: name.toList := by
    simp only [String.toList_append, List.append_assoc]
    rfl
  have parted : (area.toList ++ '.' :: name.toList).dropWhile (· != '.') = '.' :: name.toList := by
    rw [List.dropWhile_append_of_pos before]
    rfl
  have kept : (area.toList ++ '.' :: name.toList).takeWhile (· != '.') = area.toList := by
    rw [List.takeWhile_append_of_pos before]
    exact List.append_nil _
  simp only [splitTable, spelled, parted, kept, String.ofList_toList]

theorem Sql.plain_or_joined (table : String) :
    '.' ∉ table.toList ∨
      ∃ area name, '.' ∉ area.toList ∧ table = area ++ "." ++ name := by
  by_cases dotted : '.' ∈ table.toList
  · right
    obtain ⟨before, after, whole, first⟩ := List.eq_append_cons_of_mem dotted
    refine ⟨String.ofList before, String.ofList after, by rwa [String.toList_ofList], ?_⟩
    apply String.toList_inj.1
    simp only [String.toList_append, String.toList_ofList, List.append_assoc]
    exact whole
  · exact .inl dotted

namespace Connection

theorem listedName_some {area : String} (filled : area ≠ "") (name : String) :
    listedName (some area) (some area, name) = area ++ "." ++ name := by
  unfold listedName
  split
  · rename_i none
    cases none
  · rename_i empty
    exact absurd (Option.some.inj empty) filled
  · rfl

theorem listedName_splitTable {table : String} (safe : Identifier.IsSafe table) :
    listedName (Sql.splitTable table).1 (Sql.splitTable table) = table := by
  rcases Sql.plain_or_joined table with plain | ⟨area, name, plain, rfl⟩
  · rw [Sql.splitTable_of_plain plain]
    rfl
  · have filled : area ≠ "" := by
      rintro rfl
      unfold Identifier.IsSafe at safe
      simp [Identifier.isName, Identifier.isStart] at safe
    rw [Sql.splitTable_append plain]
    exact listedName_some filled name

/-! ### Groups -/

theorem exists_mem_bySchema_iff {tables : List String} {area : Option String} {name : String} :
    (∃ names, (area, names) ∈ bySchema tables ∧ name ∈ names) ↔
      ∃ table ∈ tables, Sql.splitTable table = (area, name) := by
  unfold bySchema
  constructor
  · rintro ⟨names, group, inside⟩
    obtain ⟨other, _, same⟩ := List.mem_map.1 group
    cases same
    obtain ⟨part, listed, rfl⟩ := List.mem_map.1 inside
    obtain ⟨member, here⟩ := List.mem_filter.1 listed
    obtain ⟨table, asked, rfl⟩ := List.mem_map.1 member
    exact ⟨table, asked, Prod.ext (beq_iff_eq.1 here) rfl⟩
  · rintro ⟨table, asked, parted⟩
    have member : (area, name) ∈ tables.map Sql.splitTable := List.mem_map.2 ⟨table, asked, parted⟩
    refine ⟨_, List.mem_map.2 ⟨area, List.mem_eraseDups.2 ?_, rfl⟩, ?_⟩
    · exact List.mem_map.2 ⟨_, member, rfl⟩
    · exact List.mem_map.2 ⟨_, List.mem_filter.2 ⟨member, beq_self_eq_true area⟩, rfl⟩

theorem bySchema_filled {tables : List String} {group : Option String × List String}
    (inside : group ∈ bySchema tables) : group.2 ≠ [] := by
  obtain ⟨area, listed, rfl⟩ := List.mem_map.1 inside
  obtain ⟨part, member, rfl⟩ := List.mem_map.1 (List.mem_eraseDups.1 listed)
  have there : part ∈ (tables.map Sql.splitTable).filter (fun other => other.1 == part.1) :=
    List.mem_filter.2 ⟨member, beq_self_eq_true part.1⟩
  exact List.ne_nil_of_mem (List.mem_map_of_mem there)

/-! ### Answers -/

/-- The tables of a database by schema and bare name, with their columns, as its state has them. -/
abbrev Catalogue (σ : Type) : Type := σ → Option String → String → Option (List Value)

/-- A connection through which a catalogue is seen. The answer about some tables of a schema has an
entry for each of them that exists, under schema and name, with the columns that are given for the
table alone. Asking leaves the catalogue as it is. -/
structure Shows (connection : Connection σ) (catalogue : Catalogue σ) : Prop where
  one : ∀ area name world columns, catalogue world area name = some columns →
    (connection.columns area name world).1 = .ok columns
  many : ∀ area names world, names ≠ [] → ∃ found after,
    connection.manyColumns area names world = (.ok found, after) ∧
      catalogue after = catalogue world ∧
      ∀ key columns, (key, columns) ∈ found ↔
        key.1 = area ∧ key.2 ∈ names ∧ catalogue world key.1 key.2 = some columns

variable {connection : Connection σ} {catalogue : Catalogue σ}

theorem listSchemas_eq (shows : connection.Shows catalogue)
    {groups : List (Option String × List String)} (filled : ∀ group ∈ groups, group.2 ≠ [])
    (listing : List (String × List Value)) (world : σ) :
    ∃ entries after,
      connection.listSchemas listing groups world = (.ok (Record.merge listing entries), after) ∧
      catalogue after = catalogue world ∧
      ∀ name columns, (name, columns) ∈ entries ↔
        ∃ area names, (area, names) ∈ groups ∧ ∃ bare ∈ names,
          listedName area (area, bare) = name ∧ catalogue world area bare = some columns := by
  induction groups generalizing listing world with
  | nil => exact ⟨[], world, rfl, rfl, by simp⟩
  | cons group rest ih =>
      obtain ⟨area, names⟩ := group
      obtain ⟨some, others⟩ := List.forall_mem_cons.1 filled
      obtain ⟨found, middle, answered, kept, exactly⟩ := shows.many area names world some
      let added := found.map (fun entry => (listedName area entry.1, entry.2))
      obtain ⟨entries, after, listed, left, remaining⟩ :=
        ih others (Record.merge listing added) middle
      refine ⟨added ++ entries, after, ?_, left.trans kept, fun name columns => ?_⟩
      · rw [listSchemas, Exchange.bind_of_ok answered, listed, Record.merge, Record.merge,
          Record.merge, List.foldl_append]
      · rw [List.mem_append, remaining, kept]
        constructor
        · rintro (here | ⟨other, more, group, bare, inside, there⟩)
          · obtain ⟨⟨key, value⟩, member, same⟩ := List.mem_map.1 here
            obtain ⟨rfl, inside, there⟩ := (exactly _ _).1 member
            cases same
            exact ⟨_, names, List.mem_cons_self, key.2, inside, rfl, there⟩
          · exact ⟨other, more, List.mem_cons_of_mem _ group, bare, inside, there⟩
        · rintro ⟨other, more, group, bare, inside, rfl, there⟩
          rcases List.mem_cons.1 group with first | later
          · cases first
            exact .inl (List.mem_map.2
              ⟨((area, bare), columns), (exactly _ _).2 ⟨rfl, inside, there⟩, rfl⟩)
          · exact .inr ⟨other, more, later, bare, inside, rfl, there⟩

/-- What a name denotes in a catalogue: a table in no schema by its bare name, and one in a schema
by the name of the schema, a dot and its bare name. -/
inductive Catalogue.Holds (catalogue : Catalogue σ) (world : σ) : String → List Value → Prop where
  | bare {name : String} {columns : List Value} (plain : '.' ∉ name.toList)
      (there : catalogue world none name = some columns) : Holds catalogue world name columns
  | qualified {area name : String} {columns : List Value} (plain : '.' ∉ area.toList)
      (there : catalogue world (some area) name = some columns) :
      Holds catalogue world (area ++ "." ++ name) columns

/-- Names are parted into what they denote. -/
theorem Catalogue.holds_iff {world : σ} {table : String} {columns : List Value} :
    catalogue.Holds world table columns ↔
      catalogue world (Sql.splitTable table).1 (Sql.splitTable table).2 = some columns := by
  constructor
  · intro holds
    cases holds with
    | bare plain there =>
        rw [Sql.splitTable_of_plain plain]
        exact there
    | qualified plain there =>
        rw [Sql.splitTable_append plain]
        exact there
  · intro there
    rcases Sql.plain_or_joined table with plain | ⟨area, name, plain, rfl⟩
    · rw [Sql.splitTable_of_plain plain] at there
      exact .bare plain there
    · rw [Sql.splitTable_append plain] at there
      exact .qualified plain there

theorem exists_listColumnsOfMany_eq (shows : connection.Shows catalogue) {asked : List String}
    (safe : ∀ table ∈ asked, Identifier.IsSafe table) (world : σ) :
    ∃ entries after,
      connection.listColumnsOfMany asked world = (.ok (Record.ofPairs entries), after) ∧
      ∀ table columns, (table, columns) ∈ entries ↔
        table ∈ asked ∧ catalogue.Holds world table columns := by
  have filled : ∀ group ∈ bySchema asked, group.2 ≠ [] := fun _ inside => bySchema_filled inside
  obtain ⟨entries, after, listed, _, exactly⟩ := listSchemas_eq shows filled [] world
  refine ⟨entries, after, listed, fun table columns => ?_⟩
  rw [exactly, Catalogue.holds_iff]
  constructor
  · rintro ⟨area, names, group, bare, inside, named, there⟩
    obtain ⟨other, member, parted⟩ := exists_mem_bySchema_iff.1 ⟨names, group, inside⟩
    have same := listedName_splitTable (safe other member)
    rw [parted, named] at same
    subst same
    refine ⟨member, ?_⟩
    rw [parted]
    exact there
  · rintro ⟨member, there⟩
    obtain ⟨names, group, inside⟩ := exists_mem_bySchema_iff.2 ⟨table, member, rfl⟩
    exact ⟨_, names, group, _, inside, listedName_splitTable (safe table member), there⟩

/-- Of names with and without schemas, however ordered and repeated, the listing of all has exactly
those of tables that exist, each once and as it was asked for, with the columns that the table has
and that are listed for it alone. -/
theorem many_agrees_with_one (shows : connection.Shows catalogue) (asked : List String)
    (safe : ∀ table ∈ asked, Identifier.IsSafe table) (world : σ) :
    ∃ listing after, connection.listColumnsOfMany asked world = (.ok listing, after) ∧
      (Record.names listing).Nodup ∧
      (∀ table, table ∈ Record.names listing ↔
        table ∈ asked ∧ ∃ columns, catalogue.Holds world table columns) ∧
      ∀ table columns, Record.get? table listing = some columns →
        catalogue.Holds world table columns ∧
          (connection.listColumns table world).1 = .ok columns := by
  obtain ⟨entries, after, listed, exactly⟩ := exists_listColumnsOfMany_eq shows safe world
  refine ⟨Record.ofPairs entries, after, listed, Record.nodup_names_ofPairs entries, ?_, ?_⟩
  · intro table
    rw [Record.mem_names_ofPairs]
    constructor
    · intro named
      obtain ⟨⟨_, columns⟩, inside, rfl⟩ := List.mem_map.1 named
      obtain ⟨member, there⟩ := (exactly _ _).1 inside
      exact ⟨member, columns, there⟩
    · rintro ⟨member, columns, there⟩
      exact List.mem_map_of_mem (f := (·.1)) ((exactly table columns).2 ⟨member, there⟩)
  · intro table columns found
    rw [Record.get?_ofPairs] at found
    obtain ⟨_, there⟩ := (exactly _ _).1 (List.mem_reverse.1 (Record.mem_of_get? found))
    exact ⟨there, shows.one _ _ _ _ (Catalogue.holds_iff.1 there)⟩

abbrev Tables : Type := List ((Option String × String) × List Value)

def toTables (tables : Tables) : Connection Unit :=
  { awaits := false
    dialectName := "sqlite"
    send := fun _ => pure []
    columns := fun area name => pure ((tables.lookup (area, name)).getD [])
    manyColumns := fun area names => pure (names.filterMap (fun name =>
      (tables.lookup (area, name)).map (fun columns => ((area, name), columns)))) }

theorem toTables_shows (tables : Tables) :
    (toTables tables).Shows (fun _ area name => tables.lookup (area, name)) where
  one := fun area name _ columns there => by
    change Except.ok ((tables.lookup (area, name)).getD []) = _
    rw [there]
    rfl
  many := fun area names _ _ => by
    refine ⟨_, _, rfl, rfl, fun key columns => ?_⟩
    rw [List.mem_filterMap]
    constructor
    · rintro ⟨name, inside, found⟩
      obtain ⟨listed, there, same⟩ := Option.map_eq_some_iff.1 found
      cases same
      exact ⟨rfl, inside, there⟩
    · rintro ⟨rfl, inside, there⟩
      exact ⟨key.2, inside, Option.map_eq_some_iff.2 ⟨columns, there, rfl⟩⟩

theorem many_agrees_with_one_orders :
    let tables : Tables :=
      [((none, "orders"), [.text "id"]), ((some "sales", "orders"), [.text "no", .text "sum"]),
        ((some "old", "orders"), [.text "year"])]
    let connection := toTables tables
    let asked := ["sales.orders", "orders", "old.items", "old.orders", "orders"]
    ∃ listing after, connection.listColumnsOfMany asked () = (.ok listing, after) ∧
      Record.names listing = ["sales.orders", "orders", "old.orders"] ∧
      Record.get? "sales.orders" listing = some [.text "no", .text "sum"] ∧
      ∀ table columns, Record.get? table listing = some columns →
        (connection.listColumns table ()).1 = .ok columns := by
  intro tables connection asked
  obtain ⟨listing, after, listed, _, _, agree⟩ :=
    many_agrees_with_one (toTables_shows tables) asked (by decide) ()
  have computed : (connection.listColumnsOfMany asked ()).1 =
      .ok [("sales.orders", [.text "no", .text "sum"]), ("orders", [.text "id"]),
        ("old.orders", [.text "year"])] := rfl
  rw [listed] at computed
  have laid := Except.ok.inj computed
  exact ⟨listing, after, listed, by rw [laid]; rfl, by rw [laid]; rfl,
    fun table columns found => (agree table columns found).2⟩

end Connection

end NestedSelect
