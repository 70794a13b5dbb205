import LinkShelf.Filter
import LinkShelf.Proofs.Text.Lowercase

/-! What filters mean. A filter is read part by part, and the filter of a query accepts a link
exactly when each condition of the query holds of it on its own. -/
namespace LinkShelf

def Link.NeverOnly (l : Link) : Prop :=
  l.collections ≠ [] ∧ ∀ c ∈ l.collections, c = Collection.never

theorem Link.isNeverOnly_iff {l : Link} : l.isNeverOnly = true ↔ l.NeverOnly := by
  simp [Link.isNeverOnly, Link.NeverOnly]

namespace Filter

theorem mentions_iff {text part : String} :
    mentions text part = true ↔ Text.lowerChars part.toList <:+: Text.lowerChars text.toList :=
  Text.occursIn_iff

theorem hasTag_iff {l : Link} {tag : String} :
    hasTag l tag = true ↔ ∃ t ∈ l.tags, Text.lower t = Text.lower tag := by
  simp only [hasTag, List.any_eq_true, beq_iff_eq, Text.lower, String.ofList_inj]

theorem hasWords_iff {l : Link} {text : String} :
    hasWords l text = true ↔ ∀ w ∈ Text.words (Text.lowerChars text.toList),
      w <:+: Text.lowerChars l.title.toList ∨ w <:+: Text.lowerChars l.url.toList := by
  simp [hasWords, Text.occursIn_iff]

theorem accepts_iff {f : Filter} {l : Link} :
    f.accepts l = true ↔
      (f.hidesNeverOnly = true → ¬ l.NeverOnly) ∧
      (∀ p ∈ f.urlParts, mentions l.url p = true) ∧
      (∀ t ∈ f.requiredTags, hasTag l t = true) ∧
      (∀ t ∈ f.excludedTags, hasTag l t = false) ∧
      (∀ v, f.text = some v → hasWords l v = true) := by
  have hnever : (f.hidesNeverOnly && l.isNeverOnly) = false ↔
      (f.hidesNeverOnly = true → ¬ l.NeverOnly) := by
    rw [← Link.isNeverOnly_iff]
    cases f.hidesNeverOnly <;> simp
  simp only [accepts, Bool.and_eq_true, Bool.not_eq_true', hnever, List.all_eq_true,
    List.any_eq_false, Option.all_eq_true, and_assoc, Bool.not_eq_true]

/-- Words are looked for one by one, so those of a phrase are found when those of its parts are. -/
theorem hasWords_intercalate (l : Link) (texts : List String) :
    hasWords l (String.intercalate " " texts) = texts.all (hasWords l) := by
  have hspace : " ".toList = [' '] := rfl
  simp only [hasWords, String.toList_intercalate, hspace, Text.words_lowerChars_intercalate,
    List.all_flatMap, List.all_map]
  rfl

theorem text_ofQuery (q : Query) (l : Link) :
    (ofQuery q).text.all (hasWords l) = (q.select .text).all fun c => hasWords l c.value := by
  simp only [ofQuery]
  split
  · rename_i hnone
    simp [hnone]
  · rw [Option.all_some, hasWords_intercalate, List.all_map]
    rfl

end Filter

namespace Query

def Condition.Holds (l : Link) : Condition → Prop
  | text v => ∀ w ∈ Text.words (Text.lowerChars v.toList),
      w <:+: Text.lowerChars l.title.toList ∨ w <:+: Text.lowerChars l.url.toList
  | qualifier .url v => Text.lowerChars v.toList <:+: Text.lowerChars l.url.toList
  | tag name false => ∃ t ∈ l.tags, Text.lower t = Text.lower name
  | tag name true => ¬ ∃ t ∈ l.tags, Text.lower t = Text.lower name

theorem forall_holds_iff (q : Query) (l : Link) :
    (∀ c ∈ q.conditions, c.Holds l) ↔
      (∀ c ∈ q.select .qualifier, Filter.mentions l.url c.value = true) ∧
      (∀ c ∈ q.select .tag, Filter.hasTag l c.value = !c.isExcluded) ∧
      (∀ c ∈ q.select .text, Filter.hasWords l c.value = true) := by
  have hsplit : ∀ c : Condition, c.Holds l ↔
      (c.isKind .qualifier = true → Filter.mentions l.url c.value = true) ∧
      (c.isKind .tag = true → Filter.hasTag l c.value = !c.isExcluded) ∧
      (c.isKind .text = true → Filter.hasWords l c.value = true) := by
    intro c
    cases c with
    | text v => simp [Condition.Holds, Condition.isKind, Condition.value, Filter.hasWords_iff]
    | qualifier u v =>
      cases u
      simp [Condition.Holds, Condition.isKind, Condition.value, Filter.mentions_iff]
    | tag name excluded =>
      cases excluded with
      | false => simp [Condition.Holds, Condition.isKind, Condition.value, Condition.isExcluded,
          Filter.hasTag_iff]
      | true =>
        have hneg : Filter.hasTag l name = false ↔ ¬ Filter.hasTag l name = true := by simp
        simp only [Condition.Holds, Condition.isKind, Condition.value, Condition.isExcluded,
          Bool.not_true, hneg, Filter.hasTag_iff]
        simp
  simp only [hsplit, select, List.mem_filter, and_imp]
  constructor
  · intro h
    exact ⟨fun c hc hk => (h c hc).1 hk, fun c hc hk => (h c hc).2.1 hk,
      fun c hc hk => (h c hc).2.2 hk⟩
  · rintro ⟨hurl, htag, htext⟩ c hc
    exact ⟨hurl c hc, htag c hc, htext c hc⟩

end Query

namespace Filter

theorem tags_ofQuery (q : Query) (l : Link) :
    ((∀ t ∈ (ofQuery q).requiredTags, hasTag l t = true) ∧
      (∀ t ∈ (ofQuery q).excludedTags, hasTag l t = false)) ↔
      ∀ c ∈ q.select .tag, hasTag l c.value = !c.isExcluded := by
  simp only [ofQuery, List.forall_mem_map, List.mem_filter, Bool.not_eq_true', and_imp]
  constructor
  · rintro ⟨hreq, hexc⟩ c hc
    cases hx : c.isExcluded with
    | false => exact hreq c hc hx
    | true => exact hexc c hc hx
  · intro h
    exact ⟨fun c hc hx => by simpa [hx] using h c hc, fun c hc hx => by simpa [hx] using h c hc⟩

/-- The filter of a query asks what the conditions of each kind ask together. -/
theorem accepts_ofQuery_select (q : Query) (l : Link) :
    (ofQuery q).accepts l = true ↔ ¬ l.NeverOnly ∧
      (∀ c ∈ q.select .qualifier, mentions l.url c.value = true) ∧
      (∀ c ∈ q.select .tag, hasTag l c.value = !c.isExcluded) ∧
      (∀ c ∈ q.select .text, hasWords l c.value = true) := by
  have hhides : (ofQuery q).hidesNeverOnly = true := rfl
  have hurl : (∀ p ∈ (ofQuery q).urlParts, mentions l.url p = true) ↔
      ∀ c ∈ q.select .qualifier, mentions l.url c.value = true := by
    simp [ofQuery]
  have htext : (∀ v, (ofQuery q).text = some v → hasWords l v = true) ↔
      ∀ c ∈ q.select .text, hasWords l c.value = true := by
    rw [← Option.all_eq_true, text_ofQuery, List.all_eq_true]
  rw [accepts_iff, hurl, htext, ← tags_ofQuery, and_assoc]
  simp [hhides]

/-- The filter of the conditions of two queries accepts what the filters of both accept. -/
theorem accepts_ofQuery_append (cs ds : List Query.Condition) (l : Link) :
    (ofQuery ⟨cs ++ ds⟩).accepts l = ((ofQuery ⟨cs⟩).accepts l && (ofQuery ⟨ds⟩).accepts l) := by
  rw [Bool.eq_iff_iff, Bool.and_eq_true]
  simp only [accepts_ofQuery_select, Query.select, List.filter_append, List.forall_mem_append]
  constructor
  · rintro ⟨hnever, ⟨hurl, hurl'⟩, ⟨htag, htag'⟩, htext, htext'⟩
    exact ⟨⟨hnever, hurl, htag, htext⟩, hnever, hurl', htag', htext'⟩
  · rintro ⟨⟨hnever, hurl, htag, htext⟩, -, hurl', htag', htext'⟩
    exact ⟨hnever, ⟨hurl, hurl'⟩, ⟨htag, htag'⟩, htext, htext'⟩

/-- The filter of a query accepts a link exactly if the link is not hidden and each condition holds
of it. -/
theorem accepts_ofQuery_iff (q : Query) (l : Link) :
    (ofQuery q).accepts l = true ↔ ¬ l.NeverOnly ∧ ∀ c ∈ q.conditions, c.Holds l := by
  rw [accepts_ofQuery_select, Query.forall_holds_iff]

end Filter
end LinkShelf
