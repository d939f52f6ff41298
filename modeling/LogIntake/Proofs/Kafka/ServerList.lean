import LogIntake.Kafka.Connection
import LogIntake.Proofs.Text.Places
import LogIntake.Proofs.Text.Trim

/-!
# Lists of servers

Which servers a list with commas names is said here without the scan that reads it: the commas
cut the list into places, and each place that is not blank names one server. The servers of a list
make a list themselves, which names the same ones.

## Main definitions

- `Connection.Names`: the servers that stand in some places.
- `Connection.Lists`: the servers of a list.

## Main statements

- `Connection.readServers_eq_iff`: what is read from a list.
- `Connection.readServers_eq_nil_iff`: the lists without a server.
- `Connection.readServers_intercalate`: servers that are joined again are read again.
-/

namespace LogIntake.Kafka.Connection

/-- `Names places servers`: the servers stand in the places, in the same order. Blanks around a
server are allowed, and so are places without one. -/
inductive Names : List (List Char) → List String → Prop
  | nil : Names [] []
  | blank {place : List Char} {places : List (List Char)} {servers : List String}
    (hplace : Text.Blanks place) (hrest : Names places servers) : Names (place :: places) servers
  | server {front back : List Char} {server : String} {places : List (List Char)}
    {servers : List String} (hfront : Text.Blanks front) (hback : Text.Blanks back)
    (hbare : Text.Bare server.toList) (hne : server.toList ≠ []) (hrest : Names places servers) :
    Names ((front ++ server.toList ++ back) :: places) (server :: servers)

/-- The servers of a list. -/
def Lists (list : String) (servers : List String) : Prop :=
  ∃ places, Text.Places list.toList places ∧ Names places servers

variable {list : String} {servers : List String} {places : List (List Char)}

/-! ## Servers -/

/-- A place that is not blank names what is left of it without the blanks around. -/
theorem names_cons_trim {place : List Char} (hplace : Text.trim place ≠ [])
    (hrest : Names places servers) :
    Names (place :: places) (.ofList (Text.trim place) :: servers) := by
  obtain ⟨front, back, hfront, hback, heq⟩ := Text.exists_eq_append_trim place
  have hserver : (String.ofList (Text.trim place)).toList = Text.trim place :=
    String.toList_ofList
  have hbare := hserver.symm ▸ Text.bare_trim place
  have hnames := Names.server hfront hback hbare (hserver.symm ▸ hplace) hrest
  rwa [hserver, ← heq] at hnames

/-- What stands in the places, without the blanks around. -/
theorem names_iff :
    Names places servers ↔
      ((places.map Text.trim).filter (! ·.isEmpty)).map .ofList = servers := by
  induction places generalizing servers with
  | nil =>
    constructor
    · rintro ⟨⟩
      rfl
    · rintro rfl
      exact .nil
  | cons place places ih =>
    rw [List.map_cons, List.filter_cons]
    constructor
    · rintro (_ | ⟨hplace, hrest⟩ | ⟨hfront, hback, hbare, hne, hrest⟩)
      · rw [Text.trim_of_blanks hplace]
        exact ih.1 hrest
      · rw [Text.trim_append_append hfront hbare hback, if_pos (by simpa using hne), List.map_cons,
          String.ofList_toList, ih.1 hrest]
    · intro h
      by_cases hempty : Text.trim place = []
      · rw [hempty] at h
        exact .blank (Text.trim_eq_nil_iff.1 hempty) (ih.2 h)
      · rw [if_pos (by simpa using hempty), List.map_cons] at h
        exact h ▸ names_cons_trim hempty (ih.2 rfl)

theorem readServers_eq_iff : readServers list = servers ↔ Lists list servers := by
  rw [readServers, ← names_iff]
  constructor
  · intro h
    exact ⟨_, Text.splitOn_eq_iff.1 rfl, h⟩
  · rintro ⟨places, hplaces, hnames⟩
    rwa [Text.splitOn_eq_iff.2 hplaces]

/-- A list names no server if all its places are blank. -/
theorem readServers_eq_nil_iff :
    readServers list = [] ↔
      ∀ places, Text.Places list.toList places → ∀ place ∈ places, Text.Blanks place := by
  constructor
  · intro h places hplaces place hplace
    rw [readServers, Text.splitOn_eq_iff.2 hplaces, List.map_eq_nil_iff,
      List.filter_eq_nil_iff] at h
    have htrim := h _ (List.mem_map_of_mem hplace)
    simpa [Text.trim_eq_nil_iff] using htrim
  · intro h
    rw [readServers, List.map_eq_nil_iff, List.filter_eq_nil_iff]
    intro name hname
    obtain ⟨place, hplace, rfl⟩ := List.mem_map.1 hname
    rw [Text.trim_of_blanks (h _ (Text.splitOn_eq_iff.1 rfl) place hplace)]
    decide

/-! ## Joining the servers -/

/-- The servers that stand in some places stand in places of their own as well. -/
theorem Names.joined (h : Names places servers) (hcomma : ∀ place ∈ places, ',' ∉ place) :
    Names (servers.map String.toList) servers ∧ ∀ server ∈ servers, ',' ∉ server.toList := by
  induction h with
  | nil => exact ⟨.nil, nofun⟩
  | blank _ _ ih => exact ih (List.forall_mem_cons.1 hcomma).2
  | @server front back server places servers _ _ hbare hne _ ih =>
    obtain ⟨hhere, hthere⟩ := List.forall_mem_cons.1 hcomma
    obtain ⟨hnames, hservers⟩ := ih hthere
    have hown := @Names.server [] [] _ _ _ nofun nofun hbare hne hnames
    rw [List.nil_append, List.append_nil] at hown
    refine ⟨hown, List.forall_mem_cons.2 ⟨fun hmem => hhere ?_, hservers⟩⟩
    exact List.mem_append_left _ (List.mem_append_right _ hmem)

/-- Servers that were read from a list are read again from the list that they make. -/
theorem readServers_intercalate (h : readServers list = servers) (hne : servers ≠ []) :
    readServers (String.intercalate "," servers) = servers := by
  obtain ⟨places, hplaces, hnames⟩ := readServers_eq_iff.1 h
  obtain ⟨hown, hcomma⟩ := hnames.joined hplaces.comma_not_mem
  refine readServers_eq_iff.2 ⟨servers.map String.toList, ⟨?_, ?_, ?_⟩, hown⟩
  · rwa [ne_eq, List.map_eq_nil_iff]
  · intro place hplace
    obtain ⟨server, hserver, rfl⟩ := List.mem_map.1 hplace
    exact hcomma server hserver
  · rw [String.toList_intercalate]
    rfl

end LogIntake.Kafka.Connection
