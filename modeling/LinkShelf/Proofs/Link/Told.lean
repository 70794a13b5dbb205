import LinkShelf.Link.Basic
import LinkShelf.Proofs.Time.Told

/-! Links as their written forms tell them: the time may be another one, and nothing else is. -/
namespace LinkShelf

/-- The link that is read back where all of it is told. -/
def Link.told (l : Link) : Link := { l with publishedAt := l.publishedAt.told }

theorem Link.told_eq_iff {l : Link} : l.told = l ↔ l.publishedAt.IsInstant := by
  rw [← Time.Moment.told_eq_iff]
  cases l
  simp [told]

theorem Link.map_told_eq_iff {links : List Link} :
    links.map Link.told = links ↔ ∀ l ∈ links, l.publishedAt.IsInstant := by
  simp only [← told_eq_iff, ← List.map_inj_left, List.map_id']

namespace NewLink

def told (n : NewLink) : NewLink :=
  { n with publishedAt := n.publishedAt.map fun t => (t.told : Time.Moment) }

theorem told_eq_iff {n : NewLink} : n.told = n ↔ ∀ t ∈ n.publishedAt, t.IsInstant := by
  rcases n with ⟨_, _, _, _, _, _ | t⟩
  · simp [told]
  · simpa [told] using t.told_eq_iff

end NewLink

/-- A second and a half behind the beginning of a second that is not the last of its minute. -/
def Link.overlong : Link where
  id := 1
  userId := "ann"
  title := ""
  url := "https://example.org/b"
  tags := []
  collections := []
  publishedAt := ⟨739006, 43200, 1500000000, by decide, by decide, by decide, by decide⟩

end LinkShelf
