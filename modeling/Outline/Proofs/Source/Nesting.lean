import Outline.Proofs.Source.Spans
import Outline.Proofs.Source.Words

/-!
# How statements nest

The statements of a block come in the order of the source, and those inside another one start and
end inside it (`Block.Nested`). That is so for every module that can be read (`between_read`): a
statement starts at its first word and ends with the last word taken (`Block.Spans`), and the words
are in order.
-/
namespace Outline.Source

/-! ## Blocks in order -/

/-- Where a statement starts. -/
def Extent.place (x : Extent) : Position := ⟨x.line, x.column⟩

/-- The second statement starts and ends inside the first. -/
structure Extent.Encloses (x y : Extent) : Prop where
  starts : x.place.le y.place = true
  ends : y.lastLine ≤ x.lastLine

namespace Block

/-- The places of the statements that stand directly in a block. -/
def extents : Block → List Extent
  | nil => []
  | classDef _ _ x _ rest | functionDef _ _ x _ rest | assignment _ x rest | other x rest =>
    x :: rest.extents

/-- The statements come in the order of the source, and those inside another one start and end
inside it, at every level. -/
def Nested : Block → Prop
  | nil => True
  | classDef _ _ x body rest | functionDef _ _ x body rest =>
    (∀ y ∈ body.extents, x.Encloses y) ∧ body.Nested ∧
      (∀ y ∈ rest.extents, x.place.le y.place = true) ∧ rest.Nested
  | assignment _ x rest | other x rest =>
    (∀ y ∈ rest.extents, x.place.le y.place = true) ∧ rest.Nested

@[simp] theorem extents_append (a b : Block) : (a.append b).extents = a.extents ++ b.extents := by
  induction a with
  | nil => rfl
  | classDef | functionDef | assignment | other => simp_all [append, extents]

theorem nested_append {a b : Block} (ha : a.Nested) (hb : b.Nested)
    (hab : ∀ x ∈ a.extents, ∀ y ∈ b.extents, x.place.le y.place = true) : (a.append b).Nested := by
  have hrest : ∀ {x : Extent} {rest : Block}, (∀ y ∈ rest.extents, x.place.le y.place = true) →
      (∀ z ∈ x :: rest.extents, ∀ y ∈ b.extents, z.place.le y.place = true) →
      ∀ y ∈ (rest.append b).extents, x.place.le y.place = true := by
    intro x rest hx hxb y hy
    rw [extents_append, List.mem_append] at hy
    rcases hy with hy | hy
    · exact hx y hy
    · exact hxb x (List.mem_cons_self ..) y hy
  induction a with
  | nil => exact hb
  | classDef _ _ x body rest _ ih | functionDef _ _ x body rest _ ih =>
    obtain ⟨hbody, hnested, hx, hr⟩ := ha
    exact ⟨hbody, hnested, hrest hx hab, ih hr fun z hz => hab z (List.mem_cons_of_mem _ hz)⟩
  | assignment _ x rest ih | other x rest ih =>
    obtain ⟨hx, hr⟩ := ha
    exact ⟨hrest hx hab, ih hr fun z hz => hab z (List.mem_cons_of_mem _ hz)⟩

end Block

/-! ## Words taken from the front -/

namespace Feed

/-- The words left are in order, and none ends before the last one taken. -/
structure Sound (f : Feed) : Prop where
  inOrder : f.rest.Pairwise Word.Before
  last : ∀ w ∈ f.rest, f.last ≤ w.lastLine

/-- The word in front begins no later than any other. -/
theorem le_of_head (f : Feed) (hf : f.Sound) {w v : Word} (hw : f.rest.head? = some w)
    (hv : v ∈ f.rest) : w.place.le v.place = true := by
  obtain ⟨rest, hrest⟩ := List.head?_eq_some_iff.mp hw
  have hpair := hf.inOrder
  rw [hrest] at hv hpair
  rcases List.mem_cons.mp hv with rfl | hv
  · exact Position.le_refl _
  · exact ((List.pairwise_cons.mp hpair).1 v hv).place

theorem Leads.suffix {f g : Feed} (h : f.Leads g) : g.rest <:+ f.rest := by
  induction h with
  | refl => exact List.suffix_refl _
  | word w _ ih => exact ih.trans (List.suffix_cons ..)

theorem Leads.sound {f g : Feed} (h : f.Leads g) (hf : f.Sound) : g.Sound ∧ f.last ≤ g.last := by
  induction h with
  | refl => exact ⟨hf, Nat.le_refl _⟩
  | @word w rest last g _ ih =>
    obtain ⟨hw, hrest⟩ := List.pairwise_cons.mp hf.inOrder
    obtain ⟨hlast, hlasts⟩ := List.forall_mem_cons.mp hf.last
    have hafter : last ≤ if w.lexeme.isVisible then w.lastLine else last := by
      split
      · exact hlast
      · exact Nat.le_refl _
    have hsound : Sound ⟨rest, if w.lexeme.isVisible then w.lastLine else last⟩ := by
      refine ⟨hrest, fun v hv => ?_⟩
      dsimp only
      split
      · exact (hw v hv).lastLine
      · exact hlasts v hv
    obtain ⟨hg, hle⟩ := ih hsound
    exact ⟨hg, Nat.le_trans hafter hle⟩

end Feed

/-! ## Blocks read -/

/-- A statement between two feeds: it starts at a word of the first, before all that is left in the
second, and ends no later than the last word taken. -/
structure Extent.Between (x : Extent) (f g : Feed) : Prop where
  starts : ∃ w ∈ f.rest, x.place = w.place
  before : ∀ w ∈ g.rest, x.place.le w.place = true
  ends : x.lastLine ≤ g.last

/-- A block between two feeds. -/
structure Block.Between (b : Block) (f g : Feed) : Prop where
  nested : b.Nested
  extents : ∀ x ∈ b.extents, x.Between f g

namespace Block

theorem between_nil (f g : Feed) : nil.Between f g := ⟨trivial, nofun⟩

/-- A block stays between feeds when more words are taken before it and after it. -/
theorem Between.widen {b : Block} {f g g' f' : Feed} (h : b.Between g g') (hfg : f.Leads g)
    (hgf : g'.Leads f') (hg : g'.Sound) : b.Between f f' := by
  refine ⟨h.nested, fun x hx => ?_⟩
  obtain ⟨⟨w, hw, hplace⟩, hbefore, hends⟩ := h.extents x hx
  exact ⟨⟨w, hfg.suffix.mem hw, hplace⟩, fun v hv => hbefore v (hgf.suffix.mem hv),
    Nat.le_trans hends (hgf.sound hg).2⟩

theorem Between.append {a b : Block} {f g h : Feed} (ha : a.Between f g) (hb : b.Between g h)
    (hfg : f.Leads g) (hgh : g.Leads h) (hf : f.Sound) : (a.append b).Between f h := by
  have hg := (hfg.sound hf).1
  have hh := (hgh.sound hg).1
  refine ⟨nested_append ha.nested hb.nested fun x hx y hy => ?_, fun x hx => ?_⟩
  · obtain ⟨w, hw, hplace⟩ := (hb.extents y hy).starts
    rw [hplace]
    exact (ha.extents x hx).before w hw
  · rw [extents_append, List.mem_append] at hx
    rcases hx with hx | hx
    · exact (ha.widen (.refl f) hgh hg).extents x hx
    · exact (hb.widen hfg (.refl h) hh).extents x hx

/-- A block that is one statement from a place to the last word taken. -/
structure Single (b : Block) (place : Position) (g : Feed) : Prop where
  nested : b.Nested
  extents : b.extents = [⟨place.line, place.character, g.last⟩]

/-- One statement, from the word in front to the last word taken. -/
theorem Single.between {b : Block} {f g : Feed} {w : Word} (hb : b.Single w.place g)
    (hw : f.rest.head? = some w) (hfg : f.Leads g) (hf : f.Sound) : b.Between f g := by
  refine ⟨hb.nested, fun x hx => ?_⟩
  rw [hb.extents, List.mem_singleton] at hx
  subst hx
  exact ⟨⟨w, List.mem_of_head? hw, rfl⟩, fun v hv => f.le_of_head hf hw (hfg.suffix.mem hv),
    Nat.le_refl _⟩

/-- What spans two feeds lies between them, if the words of the first are in order. -/
theorem Spans.between {b : Block} {f g : Feed} (h : b.Spans f g) (hf : f.Sound) :
    b.Between f g := by
  have hsuite : ∀ {body : Block} {f f' g : Feed} {w : Word}, f.Opens w f' → f.Sound →
      body.Spans f' g → body.Between f' g →
      ∀ y ∈ body.extents, Extent.Encloses ⟨w.line, w.column, g.last⟩ y := by
    intro body f f' g w hw hf hspans hbody y hy
    obtain ⟨⟨v, hv, hy⟩, -, hends⟩ := hbody.extents y hy
    have hplace := f.le_of_head hf hw.front (hw.toLeads.suffix.mem hv)
    exact ⟨by rw [hy]; exact hplace, hends⟩
  induction h with
  | skip => exact between_nil _ _
  | @classDef name bases body f f' g w hw hkey hb ih =>
    have hbody := ih (hw.toLeads.sound hf).1
    have hsingle : Single (.classDef name bases ⟨w.line, w.column, g.last⟩ body .nil) w.place g :=
      ⟨⟨hsuite hw hf hb hbody, hbody.nested, nofun, trivial⟩, rfl⟩
    exact hsingle.between hw.front (hw.toLeads.trans hb.leads) hf
  | @functionDef name params body f f' g w hw hkey hb ih =>
    have hbody := ih (hw.toLeads.sound hf).1
    have hsingle :
        Single (.functionDef name params ⟨w.line, w.column, g.last⟩ body .nil) w.place g :=
      ⟨⟨hsuite hw hf hb hbody, hbody.nested, nofun, trivial⟩, rfl⟩
    exact hsingle.between hw.front (hw.toLeads.trans hb.leads) hf
  | @assignment targets f g w hw =>
    have hsingle : Single (.assignment targets ⟨w.line, w.column, g.last⟩ .nil) w.place g :=
      ⟨⟨nofun, trivial⟩, rfl⟩
    exact hsingle.between hw.front hw.toLeads hf
  | @other f g w hw hleads =>
    have hsingle : Single (.other ⟨w.line, w.column, g.last⟩ .nil) w.place g :=
      ⟨⟨nofun, trivial⟩, rfl⟩
    exact hsingle.between hw hleads hf
  | append ha hb iha ihb =>
    exact (iha hf).append (ihb (ha.leads.sound hf).1) ha.leads hb.leads hf

end Block

theorem sound_lex {t : Text} {words : List Word} (h : lex t = some words) :
    Feed.Sound ⟨words, 0⟩ :=
  ⟨pairwise_lex h, fun _ _ => Nat.zero_le _⟩

/-- A module that can be read lies between its words and what is left of them. -/
theorem between_read {t : Text} {b : Block} (h : Block.read t = .ok b) :
    ∃ words g, lex t = some words ∧ Feed.Leads ⟨words, 0⟩ g ∧ b.Between ⟨words, 0⟩ g := by
  obtain ⟨words, last, hlex, hspans⟩ := spans_read h
  exact ⟨words, _, hlex, hspans.leads, hspans.between (sound_lex hlex)⟩

end Outline.Source
