import LinkShelf.Proofs.Program.Add
import LinkShelf.Proofs.Store.Narrowing
import LinkShelf.Proofs.Store.Rows
import Mathlib.Data.List.Nodup

/-! Searching the links of a base directory. What is shown are parts of one list, and what is
counted is its length, whatever part the arguments or the settings ask for. -/
namespace LinkShelf
namespace Link

def listOfText? (s : String) : Option (List Link) :=
  (Json.ofString? s).bind fun j => (Json.decodeList decode j).toOption

/-- Links that are listed are read back. -/
theorem listOfText?_listing {links : List Link} (h : ∀ l ∈ links, l.publishedAt.IsInstant) :
    listOfText? (Program.listing links) = some links := by
  have hitems : Json.decodeList decode (.array (links.map toJson)) = .ok links := by
    refine Json.decodeItems_map fun l hl => ?_
    rw [decode_toJson, told_eq_iff.mpr (h l hl)]
  rw [listOfText?, Program.listing, Json.ofString?_pretty_line, Option.bind_some, hitems]
  rfl

end Link

theorem Machine.HoldsLinks.isInstant {d : Machine} {p : Place} {links : List Link}
    (h : d.HoldsLinks p links) : ∀ l ∈ links, l.publishedAt.IsInstant := by
  rcases h with ⟨-, rfl⟩ | ⟨bs, -, hlinks⟩
  · simp
  · exact fun l hl => (Table.tidy_of_read hlinks l hl).2

namespace Program

variable {env : Environment} {d e : Machine} {s : Settings} {p : Place} {links : List Link}

/-- The settings can be loaded. The file that they name, which is not their own, holds the links, or
it can be made and there are none. -/
structure Opens (env : Environment) (d : Machine) (s : Settings) (p : Place) (links : List Link) :
    Prop where
  settings : ∃ base e, baseDirectory env = .ok base ∧
    (Settings.load (m := StateM Machine) base).run d = (.ok s, e) ∧
    e.locate (s.fullPath base) = .ok p ∧ e.lookUp p ≠ some .directory
  apart : settingsPlace? env d ≠ some p
  holds : d.HoldsLinks p links

theorem Opens.openLinks (h : Opens env d s p links) :
    ∃ path e, (openLinks (m := StateM Machine) env).run d =
        (.ok (s, { path, shelf := { links } }), e) ∧
      e.contentAt? p = some ((d.contentAt? p).getD (Table.write [])) := by
  obtain ⟨base, d₁, hbase, hsettings, hlocate, hfree⟩ := h.settings
  have hkept : d₁.contentAt? p = d.contentAt? p :=
    contentAt?_of_load_settings hbase hsettings h.apart
  refine ⟨s.fullPath base, ?_⟩
  rw [Program.openLinks, hbase]
  simp only
  rw [run_bind hsettings]
  simp only
  rcases h.holds with ⟨hnone, rfl⟩ | ⟨bs, hbs, hlinks⟩
  · have hempty : d₁.lookUp p = none := by
      rw [← hkept] at hnone
      cases hnode : d₁.lookUp p with
      | none => rfl
      | some node =>
        cases node with
        | directory => exact absurd hnode hfree
        | file bs =>
          rw [Machine.contentAt?_eq_some.mpr hnode] at hnone
          cases hnone
    rw [run_bind (LinkFile.load_of_none hlocate hempty), hnone]
    exact ⟨_, rfl, Machine.contentAt?_set_self (Machine.ne_nil_of_lookUp hfree) _⟩
  · have hfile := Machine.contentAt?_eq_some.mp (hkept.trans hbs)
    have hread := Machine.readFile_eq_ok.mpr ⟨p, hlocate, hfile⟩
    rw [run_bind (LinkFile.load_of_readFile hread hlinks)]
    exact ⟨d₁, rfl, by rw [hkept, hbs]; rfl⟩

/-- What a search prints of a list of links. -/
def answer (s : Settings) (offset : UInt64) (limit : Option UInt64) (count : Bool)
    (list : List Link) : String :=
  if count then counting list.length else listing ((page s offset limit).cut list)

/-- Every search string is answered from the listing of its query. -/
theorem run_search {path query user : String} {q : Query} {list : List Link}
    (hopen : (openLinks (m := StateM Machine) env).run d =
      (.ok (s, { path, shelf := { links } }), e))
    (hquery : Query.ofString query = .ok q)
    (hlist : Link.IsListing links user (Filter.ofQuery q) list) (offset : UInt64)
    (limit : Option UInt64) (count : Bool) :
    (search (m := StateM Machine) env user query offset limit count).run d =
      (.ok (answer s offset limit count list), e) := by
  rw [search, run_bind hopen, hlist.eq_sorted]
  simp only
  cases count with
  | true =>
    have hcount : (searcher s { path, shelf := { links } }).countString user query =
        .ok (Link.matching links user (Filter.ofQuery q)).length :=
      Searcher.countString_of_ok hquery user
    rw [answer, if_pos rfl, (Link.sorted_perm _).length_eq, if_pos rfl, hcount]
    rfl
  | false =>
    have hfind : (searcher s { path, shelf := { links } }).findString user query
        (page s offset limit) =
        .ok ((page s offset limit).cut
          (Link.sorted (Link.matching links user (Filter.ofQuery q)))) :=
      Searcher.findString_of_ok hquery user _
    rw [answer, if_neg (by decide), if_neg (by decide), hfind]
    rfl

/-- All searches of a user for one string show parts of one list, and count how long it is. This
list is that of the links in the file, whatever the other arguments are and the settings say: they
choose the part that is shown. The file stays as it is, or holds a header if it was not there. -/
theorem search_shows_and_counts (links : List Link) (user query : String) :
    ∃ q list, Query.ofString query = .ok q ∧
      Link.IsListing links user (Filter.ofQuery q) list ∧
      ∀ {env : Environment} {d : Machine} {s : Settings} {p : Place} {args : List String}
        {offset : UInt64} {limit : Option UInt64} {count : Bool}, Opens env d s p links →
        Command.ofArguments args = .ok (.search user query offset limit count) →
        ∃ o e, (run (m := StateM Machine) env args).run d = (o, e) ∧ o.code = 0 ∧
          (count = true → o.output = counting list.length) ∧
          (count = false → ∃ part, o.output = listing part ∧
            Link.listOfText? o.output = some part ∧
            ∀ i, part[i]? = if (limit <|> s.defaultLimit).all (i < ·.toNat)
              then list[offset.toNat + i]? else none) ∧
          e.contentAt? p =
            some ((d.contentAt? p).getD (Utf8.encodeString Table.headerLine)) := by
  obtain ⟨q, hq⟩ := Query.parse_tokenize query
  obtain ⟨list, hlist⟩ : ∃ list, Link.IsListing links user (Filter.ofQuery q) list :=
    ⟨_, Link.isListing_sorted links user (Filter.ofQuery q)⟩
  refine ⟨q, list, hq, hlist, ?_⟩
  intro env d s p args offset limit count hopens hcommand
  obtain ⟨path, e, hopen, hfile⟩ := hopens.openLinks
  have hsearch := run_search hopen hq hlist offset limit count
  rw [Table.write_nil] at hfile
  refine ⟨.done (answer s offset limit count list), e, ?_, rfl, ?_, ?_, hfile⟩
  · rw [run, hcommand]
    simp only [perform]
    rw [run_bind hsearch]
    rfl
  · rintro rfl
    rfl
  · rintro rfl
    have hinstant : ∀ l ∈ (page s offset limit).cut list, l.publishedAt.IsInstant := by
      intro l hl
      have hmem := hlist.perm.mem_iff.mp (Page.mem_of_mem_cut hl)
      exact hopens.holds.isInstant l (List.mem_of_mem_filter hmem)
    exact ⟨_, rfl, Link.listOfText?_listing hinstant, (page s offset limit).getElem?_cut list⟩

theorem Keeps.opens {times : Nat → Time.Instant} {base : String} {here : Place}
    (hbase : baseDirectory env = .ok base) (h : Keeps times d base here links)
    (hroom : HasRoom base links) :
    Opens env d {} (here ++ ["links.csv"]) links := by
  obtain ⟨r, d₁, hload, h', hr⟩ := h.load_settings
  rcases hr with rfl | ⟨-, hfull⟩
  · have hlocate := locate_of_lt h'.isBase isFileName_links hroom.table
    obtain ⟨-, hsettings⟩ := h.places_apart hbase hroom
    refine ⟨⟨base, d₁, hbase, hload, hlocate, ?_⟩, by simp [hsettings], ?_⟩
    · exact (Machine.locate_of_locateFile (h'.locateFile_table hroom)).2
    · rcases h.table with ⟨hnone, rfl⟩ | ⟨hfile, -⟩
      · exact .inl ⟨Machine.contentAt?_of_none hnone, rfl⟩
      · exact .inr ⟨_, Machine.contentAt?_eq_some.mpr hfile, Table.read_write h.durable⟩
  · exact absurd hroom hfull

/-- A link of a leap second, with quotes and line ends in its texts. -/
def onlyLink : Link := { LinkFile.awkward with id := 0 }

def withOnlyLink : Machine :=
  LinkFile.oneDirectory.set ["shelf", "links.csv"] (some (.file (Table.write [onlyLink])))

theorem onlyLink_durable : onlyLink.Durable where
  isItem := LinkFile.awkward_durable.isItem
  zero_le_year := LinkFile.awkward_durable.zero_le_year
  year_le := LinkFile.awkward_durable.year_le
  isInstant := LinkFile.awkward_durable.isInstant

theorem withOnlyLink_keeps :
    Keeps LinkFile.oneDirectory.clock withOnlyLink "shelf" ["shelf"] [onlyLink] := by
  refine oneDirectory_keeps.set_table hasRoom_shelf.table ?_ (by decide)
  exact List.forall_mem_singleton.mpr onlyLink_durable

/-- The link is found. It is not shown when no link is asked for, but it is counted. -/
theorem search_shows_and_counts_only_link :
    let env : Environment := { basePath := some "shelf" }
    let shown := ["search", "-u", onlyLink.userId, "--limit=0", "--", "-#words"]
    let counted := ["search", "-u", onlyLink.userId, "--limit=0", "-c", "--", "-#words"]
    Opens env withOnlyLink {} ["shelf", "links.csv"] [onlyLink] ∧
    Command.ofArguments shown = .ok (.search onlyLink.userId "-#words" 0 (some 0) false) ∧
    Command.ofArguments counted = .ok (.search onlyLink.userId "-#words" 0 (some 0) true) ∧
    (∃ o e, (run (m := StateM Machine) env shown).run withOnlyLink = (o, e) ∧ o.code = 0 ∧
      o.output = listing [] ∧
      e.contentAt? ["shelf", "links.csv"] = some (Table.write [onlyLink])) ∧
    ∃ o e, (run (m := StateM Machine) env counted).run withOnlyLink = (o, e) ∧ o.code = 0 ∧
      o.output = counting 1 ∧
      e.contentAt? ["shelf", "links.csv"] = some (Table.write [onlyLink]) := by
  intro env shown counted
  have hroom : HasRoom "shelf" [onlyLink] := by constructor <;> decide +kernel
  have hopens : Opens env withOnlyLink {} ["shelf", "links.csv"] [onlyLink] :=
    withOnlyLink_keeps.opens rfl hroom
  have hshown : Command.ofArguments shown =
      .ok (.search onlyLink.userId "-#words" 0 (some 0) false) := by decide +kernel
  have hcounted : Command.ofArguments counted =
      .ok (.search onlyLink.userId "-#words" 0 (some 0) true) := by decide +kernel
  have hfile : withOnlyLink.contentAt? ["shelf", "links.csv"] = some (Table.write [onlyLink]) :=
    Machine.contentAt?_set_self (by simp) _
  obtain ⟨q, list, hq, hlist, hsearch⟩ :=
    search_shows_and_counts [onlyLink] onlyLink.userId "-#words"
  rw [show Query.ofString "-#words" = .ok ⟨[.tag "words" true]⟩ by decide +kernel] at hq
  cases hq
  have hlength : list.length = 1 := by
    rw [hlist.perm.length_eq]
    decide +kernel
  obtain ⟨o, e, hrun, hcode, -, hpart, hkept⟩ := hsearch hopens hshown
  obtain ⟨o', e', hrun', hcode', hcount, -, hkept'⟩ := hsearch hopens hcounted
  obtain ⟨part, houtput, -, hnone⟩ := hpart rfl
  have hempty : part = [] := List.ext_getElem? fun i => by simp [hnone i]
  rw [hfile] at hkept hkept'
  exact ⟨hopens, hshown, hcounted, ⟨o, e, hrun, hcode, by rw [houtput, hempty], hkept⟩,
    o', e', hrun', hcode', by rw [hcount rfl, hlength], hkept'⟩

end Program
end LinkShelf
