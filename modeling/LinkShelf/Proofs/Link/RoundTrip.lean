import LinkShelf.Link.Json
import LinkShelf.Proofs.Json.RoundTrip
import LinkShelf.Proofs.Link.Told
import LinkShelf.Proofs.Time.Relaxed

/-! A link that is printed as JSON is read back with all its fields, the time as its written form tells
it. So is what is given to make one, where fields that were left out are still left out. -/
namespace LinkShelf

namespace Json

theorem decodeItems_map {α : Type} {item : Decoder α} {encode : α → Json} {xs : List α}
    (h : ∀ x ∈ xs, item (encode x) = .ok x) : decodeItems item (xs.map encode) = .ok xs := by
  induction xs with
  | nil => rfl
  | cons x xs ih =>
    obtain ⟨hx, hxs⟩ := List.forall_mem_cons.mp h
    simp only [List.map_cons, decodeItems, hx, ih hxs, Except.map]

theorem decodeList_ofStrings (xs : List String) :
    decodeList decodeString (ofStrings xs) = .ok xs := by
  have hitem : ∀ s ∈ xs, decodeString (string s) = .ok s := fun _ _ => rfl
  exact decodeItems_map hitem

theorem decodeUInt64_ofNat (n : UInt64) : decodeUInt64 (ofNat n.toNat) = .ok n := by
  simp only [ofNat, decodeUInt64, if_neg (by decide : ¬ (false = true)), if_pos n.toNat_lt,
    UInt64.ofNat_toNat]

end Json

theorem Collection.decode_toJson (c : Collection) : Collection.decode c.toJson = .ok c := by
  cases c <;> rfl

theorem Time.Moment.decode_textZ (t : Time.Moment) :
    Time.Moment.decode (.string t.textZ) = .ok t.told := by
  rw [Time.Moment.decode, Time.Moment.readRelaxed_textZ]
  rfl

namespace Link

/-- The fields of a link in the order of their names. -/
theorem sortedFields_toJson (l : Link) : ∃ fields, l.toJson = .object fields ∧
    Json.sortedFields fields =
      [("collections", .array (l.collections.map Collection.toJson)),
        ("id", .ofNat l.id.toNat),
        ("published_at", .string l.publishedAt.textZ),
        ("tags", .ofStrings l.tags),
        ("title", .string l.title),
        ("url", .string l.url),
        ("user_id", .string l.userId)] := by
  refine ⟨_, rfl, ?_⟩
  simp only [Json.sortedFields, List.foldl_cons, List.foldl_nil, Json.sortedFields.insert,
    String.reduceLT, String.reduceEq, if_true, if_false]

theorem decode_toJson (l : Link) : Link.decode l.toJson = .ok l.told := by
  obtain ⟨fields, hobject, hsorted⟩ := l.sortedFields_toJson
  have hcollections : Json.decodeList Collection.decode
      (.array (l.collections.map Collection.toJson)) = .ok l.collections :=
    Json.decodeItems_map fun c _ => c.decode_toJson
  have hid := Json.decodeUInt64_ofNat l.id
  have htags := Json.decodeList_ofStrings l.tags
  have htime := l.publishedAt.decode_textZ
  rw [hobject, Link.decode, hsorted]
  simp only [Draft.readAll, Draft.read, hcollections, hid, htags, htime, Json.decodeString,
    bind, Except.bind, pure, Except.pure, Draft.finish, Draft.require]
  rfl

def ofText? (s : String) : Option Link :=
  (Json.ofString? s).bind fun j => (Link.decode j).toOption

/-- A link that is printed as a line of its own is read back. -/
theorem ofText?_pretty (l : Link) : ofText? (l.toJson.pretty ++ "\n") = some l.told := by
  rw [ofText?, Json.ofString?_pretty_line, Option.bind_some, decode_toJson]
  rfl

theorem ofText?_of_json {s : String} {l : Link} (h : Json.ofString? s = some l.toJson) :
    ofText? s = some l.told := by
  rw [ofText?, h, Option.bind_some, decode_toJson]
  rfl

end Link

namespace NewLink

theorem sortedFields_toJson (n : NewLink) : ∃ fields, n.toJson = .object fields ∧
    Json.sortedFields fields =
      ("collections", .array (n.collections.map Collection.toJson)) ::
        (optional "published_at" (n.publishedAt.map fun t => .string t.textZ) ++
          (optional "tags" (n.tags.map .ofStrings) ++
            (optional "title" (n.title.map .string) ++
              [("url", .string n.url), ("user_id", .string n.userId)]))) := by
  refine ⟨_, rfl, ?_⟩
  -- each of three fields may be left out
  rcases n with ⟨userId, url, _ | title, _ | tags, collections, _ | time⟩ <;>
  simp only [optional, Option.map_none, Option.map_some, List.nil_append, List.append_nil,
    List.cons_append, Json.sortedFields, List.foldl_cons, List.foldl_nil,
    Json.sortedFields.insert, String.reduceLT, String.reduceEq, if_true, if_false]

namespace Draft

variable {d : Draft} {rest : List (String × Json)}

theorem readAll_cons {d' : Draft} {name : String} {j : Json} (h : d.read name j = .ok d') :
    d.readAll ((name, j) :: rest) = d'.readAll rest := by
  rw [readAll, h]
  rfl

theorem readAll_optional {α : Type} {name : String} {encode : α → Json} {back : α → α}
    (with? : Option (Option α) → Draft)
    (h : ∀ x, (with? none).read name (encode x) = .ok (with? (some (some (back x)))))
    (value : Option α) :
    (with? none).readAll (optional name (value.map encode) ++ rest) =
      (with? (value.map fun x => some (back x))).readAll rest := by
  cases value with
  | none => rfl
  | some x => exact readAll_cons (h x)

end Draft

theorem readAll_toJson (n : NewLink) : ∃ fields, n.toJson = .object fields ∧
    Draft.readAll {} (Json.sortedFields fields) =
      .ok
        { userId := some n.userId, url := some n.url, title := n.title.map some
          tags := n.tags.map some, collections := some n.collections
          publishedAt := n.told.publishedAt.map some } := by
  obtain ⟨fields, hobject, hsorted⟩ := n.sortedFields_toJson
  have hcollections : Draft.read {} "collections"
      (.array (n.collections.map Collection.toJson)) =
      .ok { collections := some n.collections } := by
    have hitems : Json.decodeList Collection.decode
        (.array (n.collections.map Collection.toJson)) = .ok n.collections :=
      Json.decodeItems_map fun c _ => c.decode_toJson
    simp only [Draft.read, hitems, bind, Except.bind, pure, Except.pure]
  have htime : ∀ (d : Draft) (t : Time.Moment), d.read "published_at" (.string t.textZ) =
      .ok { d with publishedAt := some (some (t.told : Time.Moment)) } := by
    intro d t
    simp only [Draft.read, Json.decodeOption, t.decode_textZ, bind, Except.bind, pure,
      Except.pure, Except.map]
  have htags : ∀ (d : Draft) (ts : List String), d.read "tags" (.ofStrings ts) =
      .ok { d with tags := some (some ts) } := by
    intro d ts
    have hsome : Json.decodeOption (Json.decodeList Json.decodeString) (.ofStrings ts) =
        .ok (some ts) := congrArg (Except.map some) (Json.decodeList_ofStrings ts)
    simp only [Draft.read, hsome, bind, Except.bind, pure, Except.pure]
  have htitle : ∀ (d : Draft) (s : String), d.read "title" (.string s) =
      .ok { d with title := some (some s) } := fun _ _ => rfl
  refine ⟨fields, hobject, ?_⟩
  rw [hsorted, Draft.readAll_cons hcollections]
  refine (Draft.readAll_optional
    (fun time => { collections := some n.collections, publishedAt := time })
    (fun t => htime _ t) _).trans ?_
  have hback : n.told.publishedAt.map some = n.publishedAt.map fun t => some (t.told : Time.Moment) :=
    Option.map_map ..
  rw [← hback]
  refine (Draft.readAll_optional
    (fun tags =>
      { collections := some n.collections, publishedAt := n.told.publishedAt.map some, tags })
    (fun ts => htags _ ts) _).trans ?_
  exact Draft.readAll_optional
    (fun title =>
      { collections := some n.collections, publishedAt := n.told.publishedAt.map some
        tags := n.tags.map some, title })
    (fun s => htitle _ s) _

/-- What was left out is still left out, and what is empty is there and empty. -/
theorem decode_toJson (n : NewLink) : decode n.toJson = .ok n.told := by
  obtain ⟨fields, hobject, hread⟩ := n.readAll_toJson
  have hback : ∀ {α : Type} (o : Option α), (o.map some).getD none = o := by
    intro α o
    cases o <;> rfl
  rw [hobject, decode, hread]
  simp only [bind, Except.bind, pure, Except.pure, Link.Draft.require, hback, Option.getD_some]
  rfl

def ofText? (s : String) : Option NewLink :=
  (Json.ofString? s).bind fun j => (decode j).toOption

theorem ofText?_of_json {s : String} {n : NewLink} (h : Json.ofString? s = some n.toJson) :
    ofText? s = some n.told := by
  rw [ofText?, h, Option.bind_some, decode_toJson]
  rfl

end NewLink

/-- Links that are written as JSON are read back in both layouts, and so is what is given to make links:
with all their fields, but a time that no clock shows is read as its written form tells it. -/
theorem links_survive_json :
    (∀ l : Link, Link.ofText? l.toJson.compact = some l.told ∧
      Link.ofText? l.toJson.pretty = some l.told ∧ (l.told = l ↔ l.publishedAt.IsInstant)) ∧
    ∀ n : NewLink, NewLink.ofText? n.toJson.compact = some n.told ∧
      NewLink.ofText? n.toJson.pretty = some n.told ∧
      (n.told = n ↔ ∀ t ∈ n.publishedAt, t.IsInstant) :=
  ⟨fun _ => ⟨Link.ofText?_of_json (Json.ofString?_compact _),
      Link.ofText?_of_json (Json.ofString?_pretty _), Link.told_eq_iff⟩,
    fun _ => ⟨NewLink.ofText?_of_json (Json.ofString?_compact _),
      NewLink.ofText?_of_json (Json.ofString?_pretty _), NewLink.told_eq_iff⟩⟩

theorem overlong_changed_by_json :
    Link.overlong.publishedAt.textZ = "2024-05-01T12:00:01.500Z" ∧
    Link.ofText? Link.overlong.toJson.compact ≠ some Link.overlong ∧
    (Link.ofText? Link.overlong.toJson.compact).map
        (fun l => (l.publishedAt.second, l.publishedAt.nano)) =
      some (43201, 500000000) := by
  have hread : Link.ofText? Link.overlong.toJson.compact = some Link.overlong.told :=
    Link.ofText?_of_json (Json.ofString?_compact _)
  have hchanged : Link.overlong.told ≠ Link.overlong := by
    rw [ne_eq, Link.told_eq_iff]
    decide
  refine ⟨by decide, ?_, ?_⟩
  · rw [hread]
    exact fun h => hchanged (Option.some.inj h)
  · rw [hread]
    rfl

end LinkShelf
