import LinkShelf.Proofs.Yaml.Entry
import LinkShelf.Yaml.Node

/-! A mapping with a line or a block for each entry is read as its entries. -/
namespace LinkShelf
namespace Yaml

/-- An entry of a mapping: its name, and the style and the text of its value. -/
structure Entry where
  name : String
  style : Style
  text : String
  deriving DecidableEq, Repr

namespace Entry

def tokens (e : Entry) : List Token :=
  [.key, .scalar .plain e.name, .value, .scalar e.style e.text]

def nodes (e : Entry) : Node × Node :=
  (.scalar { text := e.name }, .scalar { style := e.style, text := e.text })

end Entry

/-- The lines of a mapping that is not indented, with its entries. -/
inductive Lines : List Char → List Entry → Prop
  | nil : Lines [] []
  | cons {e : Entry} {es : List Entry} {written rest : List Char} (hname : IsName e.name.toList)
    (hvalue : Layout.IsValue written e.style e.text.toList)
    (hallowed : ∀ c ∈ written, isAllowed c = true) (hrest : Lines rest es) :
    Lines (e.name.toList ++ ':' :: ' ' :: (written ++ rest)) (e :: es)

namespace Lines

variable {cs : List Char} {es : List Entry}

theorem beginsToken (h : Lines cs es) : BeginsToken cs := by
  cases h with
  | nil => rintro d ⟨⟩
  | cons hname _ _ _ => exact hname.beginsToken _

theorem allowed (h : Lines cs es) : ∀ c ∈ cs, isAllowed c = true := by
  induction h with
  | nil => exact List.forall_mem_nil _
  | cons hname _ hallowed _ ih =>
    exact List.forall_mem_append.mpr ⟨hname.allowed, List.forall_mem_cons.mpr ⟨by decide,
      List.forall_mem_cons.mpr ⟨by decide, List.forall_mem_append.mpr ⟨hallowed, ih⟩⟩⟩⟩

open Layout in
/-- The lines are read one after the other. The first entry opens the mapping, and the end of the text
closes it. -/
theorem run_atLine (h : Lines cs es) {opened : Bool} {tokens : List Token} {c : Cursor} {fuel : Nat}
    (hopened : opened = true ∨ es ≠ []) (hc : c.rest = cs) (hcolumn : c.column = 0)
    (hfuel : cs.length < fuel) :
    ((atLine opened tokens c).run fuel).map (·.tokens) =
      some (tokens ++ ((if opened then [] else [.blockMappingStart]) ++
        (es.flatMap Entry.tokens ++ [.blockEnd]))) := by
  induction h generalizing opened tokens c fuel with
  | nil =>
    obtain rfl : opened = true := hopened.resolve_right fun hne => hne rfl
    obtain ⟨fuel, rfl⟩ := Nat.exists_eq_add_one.mpr (Nat.zero_lt_of_lt hfuel)
    exact run_end hc
  | @cons e es written rest hname hvalue _ hrest ih =>
    have hpos : 0 < e.name.toList.length := List.length_pos_iff.mpr hname.word.ne_nil
    simp only [List.length_append, List.length_cons] at hfuel
    obtain ⟨fuel, rfl⟩ : ∃ n, fuel = n + 4 := ⟨fuel - 4, by omega⟩
    obtain ⟨c', hc', hcolumn', hrun⟩ :=
      run_entry opened tokens hname hvalue hrest.beginsToken hc hcolumn
    rw [hrun, ih (.inl rfl) hc' hcolumn' (by omega)]
    simp [keyTokens, Entry.tokens]

theorem tokenize_eq (h : Lines cs es) (hne : es ≠ []) : tokenize (String.ofList cs) =
    some (.blockMappingStart :: (es.flatMap Entry.tokens ++ [.blockEnd])) := by
  have hall : cs.all isAllowed = true := List.all_eq_true.mpr h.allowed
  rw [tokenize, String.toList_ofList, hall, if_pos rfl, String.length_ofList]
  have hstart : ({ cursor := { rest := cs } } : Layout) = Layout.atLine false [] { rest := cs } := rfl
  rw [hstart]
  exact h.run_atLine (.inr hne) rfl rfl (Nat.lt_succ_self _)

end Lines

namespace Parse

variable {fuel : Nat} {ts : List Token} {handles : List (String × String)} {anchors : Anchors}

theorem run_node_scalar (dashes : Bool) (style : Style) (text : String) :
    (node true dashes (fuel + 1)).run ⟨.scalar style text :: ts, handles, anchors⟩ =
      some (.scalar { style, text }, ⟨ts, handles, anchors⟩) := by
  rw [node]
  simp [peek, properties, skip, scalar, note]

theorem run_accept_self (t : Token) :
    (accept t).run ⟨t :: ts, handles, anchors⟩ = some (true, ⟨ts, handles, anchors⟩) := by
  simp [accept, peek, skip]

theorem run_accept_other {t u : Token} (h : u ≠ t) :
    (accept t).run ⟨u :: ts, handles, anchors⟩ = some (false, ⟨u :: ts, handles, anchors⟩) := by
  simp [accept, peek, h]

theorem run_expect (t : Token) :
    (expect t).run ⟨t :: ts, handles, anchors⟩ = some ((), ⟨ts, handles, anchors⟩) := by
  simp [expect, run_accept_self]

theorem run_orEmpty {t : Token} {stops : List Token} (h : t ∉ stops) (p : Parse Node) :
    (orEmpty stops p).run ⟨t :: ts, handles, anchors⟩ = p.run ⟨t :: ts, handles, anchors⟩ := by
  simp [orEmpty, before, peek, h]

theorem run_blockEntries_cons (e : Entry) :
    (blockEntries (fuel + 2)).run ⟨e.tokens ++ ts, handles, anchors⟩ =
      ((blockEntries (fuel + 1)).run ⟨ts, handles, anchors⟩).map fun r => (e.nodes :: r.1, r.2) := by
  rw [blockEntries]
  simp [Entry.tokens, Entry.nodes, run_accept_other, run_accept_self, run_expect, run_orEmpty,
    run_node_scalar]

theorem run_blockEntries (es : List Entry) (hfuel : es.length < fuel) :
    (blockEntries fuel).run ⟨es.flatMap Entry.tokens ++ .blockEnd :: ts, handles, anchors⟩ =
      some (es.map Entry.nodes, ⟨ts, handles, anchors⟩) := by
  induction es generalizing fuel with
  | nil =>
    obtain ⟨fuel, rfl⟩ := Nat.exists_eq_add_one.mpr hfuel
    rw [blockEntries]
    simp [run_accept_self]
  | cons e es ih =>
    rw [List.length_cons] at hfuel
    obtain ⟨fuel, rfl⟩ : ∃ n, fuel = n + 2 := ⟨fuel - 2, by omega⟩
    rw [List.flatMap_cons, List.append_assoc, run_blockEntries_cons, ih (by omega)]
    rfl

theorem run_document (es : List Entry) (hfuel : es.length + 1 < fuel) :
    ((document fuel).run
      { tokens := .blockMappingStart :: (es.flatMap Entry.tokens ++ [.blockEnd]) }) =
      some ({ root := .mapping (es.map Entry.nodes) }, { tokens := [], handles := knownHandles }) := by
  obtain ⟨fuel, rfl⟩ : ∃ n, fuel = n + 1 := ⟨fuel - 1, by omega⟩
  have hentries : (blockEntries fuel).run
      ⟨es.flatMap Entry.tokens ++ [.blockEnd], knownHandles, {}⟩ =
        some (es.map Entry.nodes, ⟨[], knownHandles, {}⟩) := run_blockEntries es (by omega)
  rw [document, directives, node]
  simp [peek, Token.isDirective, run_accept_other, properties, skip, note, hentries]

end Parse

/-- A mapping that has entries is read as these entries. -/
theorem read_of_lines {cs : List Char} {es : List Entry} (h : Lines cs es) (hne : es ≠ []) :
    read (String.ofList cs) = some (some { root := .mapping (es.map Entry.nodes) }) := by
  have hlength : ∀ es : List Entry, es.length ≤ (es.flatMap Entry.tokens).length := by
    intro es
    induction es with
    | nil => exact Nat.le_refl 0
    | cons e es ih =>
      rw [List.flatMap_cons, List.length_append, List.length_cons, Entry.tokens]
      simp only [List.length_cons]
      omega
  have hfuel : es.length + 1 < 3 * (Token.blockMappingStart ::
      (es.flatMap Entry.tokens ++ [.blockEnd])).length + 3 := by
    have hle := hlength es
    simp only [List.length_cons, List.length_append]
    omega
  rw [read, h.tokenize_eq hne]
  simp only [Option.bind_eq_bind, Option.bind_some, List.isEmpty_cons, Bool.false_eq_true, if_false,
    Parse.run_document es hfuel]
  rfl

end Yaml
end LinkShelf
