import Mathlib.Data.List.Forall2
import LinkShelf.Proofs.Filter.Meaning
import LinkShelf.Proofs.Text.Lowered
import LinkShelf.Proofs.Time.Order

/-! Filters and links with some of their strings in lowercase. A filter compares nothing but lowercases,
and these stay the same, so it accepts what it accepts without the change. -/
namespace LinkShelf
namespace Text

/-- The text as it is, or in lowercase. -/
inductive Recased (s : String) : String → Prop
  | kept : Recased s s
  | lowered : Recased s (lower s)

theorem Recased.lowerChars_eq {s t : String} (h : Recased s t) :
    lowerChars t.toList = lowerChars s.toList := by
  cases h with
  | kept => rfl
  | lowered => rw [toList_lower, lowerChars_lowerChars]

section Members

variable {p q : String → Bool} (hpq : ∀ x y, Recased x y → q y = p x)
include hpq

theorem all_recased {xs ys : List String} (h : List.Forall₂ Recased xs ys) : ys.all q = xs.all p := by
  induction h with
  | nil => rfl
  | cons hxy _ ih => rw [List.all_cons, List.all_cons, hpq _ _ hxy, ih]

theorem any_recased {xs ys : List String} (h : List.Forall₂ Recased xs ys) : ys.any q = xs.any p := by
  induction h with
  | nil => rfl
  | cons hxy _ ih => rw [List.any_cons, List.any_cons, hpq _ _ hxy, ih]

theorem optional_recased {x y : Option String} (h : Option.Rel Recased x y) : y.all q = x.all p := by
  cases h with
  | none => rfl
  | some hxy => exact hpq _ _ hxy

end Members

end Text

/-- Any of the title, the url and the tags is in lowercase, and nothing else is changed. -/
structure Link.Recased (l m : Link) : Prop where
  title : Text.Recased l.title m.title
  url : Text.Recased l.url m.url
  tags : List.Forall₂ Text.Recased l.tags m.tags
  others : m = { l with title := m.title, url := m.url, tags := m.tags }

theorem Link.Recased.isNeverOnly_eq {l m : Link} (h : l.Recased m) :
    m.isNeverOnly = l.isNeverOnly := by
  rw [h.others]
  rfl

namespace Filter

structure Recased (f g : Filter) : Prop where
  text : Option.Rel Text.Recased f.text g.text
  urlParts : List.Forall₂ Text.Recased f.urlParts g.urlParts
  requiredTags : List.Forall₂ Text.Recased f.requiredTags g.requiredTags
  excludedTags : List.Forall₂ Text.Recased f.excludedTags g.excludedTags
  hidesNeverOnly : g.hidesNeverOnly = f.hidesNeverOnly

variable {l m : Link} {s t : String}

theorem mentions_recased {text text' : String} (htext : Text.Recased text text')
    (hs : Text.Recased s t) : mentions text' t = mentions text s := by
  rw [mentions, mentions, htext.lowerChars_eq, hs.lowerChars_eq]

theorem hasTag_recased (hl : l.Recased m) (hs : Text.Recased s t) : hasTag m t = hasTag l s := by
  refine Text.any_recased (fun x y hxy => ?_) hl.tags
  rw [hxy.lowerChars_eq, hs.lowerChars_eq]

theorem hasWords_recased (hl : l.Recased m) (hs : Text.Recased s t) :
    hasWords m t = hasWords l s := by
  rw [hasWords, hasWords, hs.lowerChars_eq, hl.title.lowerChars_eq, hl.url.lowerChars_eq]

/-- Letter case is ignored altogether: whichever strings of the filter and of the link are put into
lowercase, the filter accepts the link exactly if it did before. -/
theorem accepts_of_recased {f g : Filter} (hf : f.Recased g) (hl : l.Recased m) :
    g.accepts m = f.accepts l := by
  have hurl : g.urlParts.all (mentions m.url) = f.urlParts.all (mentions l.url) :=
    Text.all_recased (fun _ _ hs => mentions_recased hl.url hs) hf.urlParts
  have htag : ∀ x y, Text.Recased x y → hasTag m y = hasTag l x := fun _ _ hs => hasTag_recased hl hs
  have htext : g.text.all (hasWords m) = f.text.all (hasWords l) :=
    Text.optional_recased (fun _ _ hs => hasWords_recased hl hs) hf.text
  rw [accepts, accepts, hf.hidesNeverOnly, hl.isNeverOnly_eq, hurl,
    Text.all_recased htag hf.requiredTags, Text.any_recased htag hf.excludedTags, htext]

/-- A sigma at the end of the title, which is final there, and a tag that gets longer in lowercase. -/
theorem accepts_of_recased_sigma :
    let f : Filter :=
      { text := some "ΟΔΟΣ Ά", urlParts := ["ORG/"], requiredTags := ["İZMİR", "Ü"] }
    let l : Link :=
      { id := 0, userId := "ann", title := "Ά ΟΔΟΣ", url := "https://example.org/ΟΔΟΣ",
        tags := ["ü", "İZMİR"], collections := [], publishedAt := .yearOne }
    let g := { f with text := some (Text.lower "ΟΔΟΣ Ά"), requiredTags := ["İZMİR", Text.lower "Ü"] }
    let m := { l with title := Text.lower l.title, tags := ["ü", Text.lower "İZMİR"] }
    f.Recased g ∧ l.Recased m ∧ g.accepts m = f.accepts l := by
  intro f l g m
  have hf : f.Recased g :=
    ⟨.some .lowered, .cons .kept .nil, .cons .kept (.cons .lowered .nil), .nil, rfl⟩
  have hl : l.Recased m := ⟨.lowered, .kept, .cons .kept (.cons .lowered .nil), rfl⟩
  exact ⟨hf, hl, accepts_of_recased hf hl⟩

end Filter
end LinkShelf
