import Outline.Proofs.Query.Words
import Outline.Proofs.Search.History
import Outline.Proofs.Tree.Marks

/-!
# More words narrow an outline

More words typed behind a query for words are read as more words to satisfy (`parse_append`), what
satisfies them satisfied the first ones, and a hit lands at the same stops whatever other hits there
are. So no row comes on screen by typing more words (`visible_narrows`).
-/
namespace Outline

namespace Query

/-- The query with more words to search for. -/
def extend (us : List Token) : Query → Query
  | .tokens ts => .tokens (ts ++ us)
  | .kindsAndTokens ks ts => .kindsAndTokens ks (ts ++ us)
  | q => q

theorem isSome_tokens?_extend (us : List Token) (q : Query) :
    (q.extend us).tokens?.isSome = q.tokens?.isSome := by
  cases q <;> rfl

theorem ne_none_of_isSome_tokens? {q : Query} (hq : q.tokens?.isSome = true) : q ≠ .none := by
  rintro rfl
  cases hq

/-- More words behind a query for words are searched for as well, and its kinds stay. -/
theorem parse_append {c : Char} (hc : isBlank c = false) {raw : Text}
    (hq : (parse [c] (c :: raw)).tokens?.isSome = true) (extra : Text) :
    parse [c] (c :: raw ++ ' ' :: extra) = (parse [c] (c :: raw)).extend (tokenize extra) := by
  obtain ⟨word, rest, rfl, hcut⟩ := raw.exists_cut
  have hne : word ++ rest ≠ [] := by
    intro e
    rw [e] at hq
    cases hq
  have hne' : word ++ (rest ++ ' ' :: extra) ≠ [] := by simp
  rw [List.cons_append, List.append_assoc, parse_cut hc (hcut.append extra) hne']
  rw [parse_cut hc hcut hne] at hq ⊢
  by_cases hf : word ≠ [] ∧ KindFilter.distinctLetters word = true
  · rw [if_pos hf] at hq ⊢
    rw [if_pos hf]
    by_cases hr : rest.all isBlank = true
    · rw [if_pos hr] at hq
      cases hq
    · have hmore : ¬(rest ++ ' ' :: extra).all isBlank = true := by
        rw [List.all_append, Bool.and_eq_true]
        exact fun h => hr h.1
      rw [if_neg hr, if_neg hmore, tokenize_append_blank, extend]
  · rw [if_neg hf, if_neg hf, ← List.append_assoc, tokenize_append_blank, extend]

end Query

namespace Search

open Outline.Tree

/-! ## Reading -/

/-- The text of a query is the sentinel and what is behind it, and more text comes behind that. -/
theorem prompt_append {s : Search} {c : Char} (hs : s.sentinel = [c]) (hc : isBlank c = false)
    (raw extra : Text) :
    ∃ r, s.prompt raw = c :: r ∧ s.prompt (raw ++ ' ' :: extra) = c :: r ++ ' ' :: extra := by
  cases raw with
  | nil =>
    have hblank : ' ' ≠ c := by
      rintro rfl
      cases hc
    exact ⟨[], by simp [prompt, hs, Text.dropPrefix?],
      by simp [prompt, hs, Text.dropPrefix?, hblank]⟩
  | cons x raw =>
    by_cases hx : x = c
    · exact ⟨raw, by simp [prompt, hs, Text.dropPrefix?, hx],
        by simp [prompt, hs, Text.dropPrefix?, hx]⟩
    · exact ⟨x :: raw, by simp [prompt, hs, Text.dropPrefix?, hx],
        by simp [prompt, hs, Text.dropPrefix?, hx]⟩

theorem asked_append {s : Search} {c : Char} (hs : s.sentinel = [c]) (hc : isBlank c = false)
    {raw : Text} (hq : (s.asked raw).tokens?.isSome = true) (extra : Text) :
    s.asked (raw ++ ' ' :: extra) = (s.asked raw).extend (tokenize extra) := by
  obtain ⟨r, hr, hmore⟩ := prompt_append hs hc raw extra
  have hask : s.asked raw = Query.parse [c] (c :: r) := by rw [asked, hs, hr]
  rw [hask] at hq ⊢
  rw [asked, hs, hmore]
  exact Query.parse_append hc hq extra

/-! ## Hits -/

/-- Every hit of the first list has one of the second on the same line. -/
def Among (more hits : List Leaf) : Prop :=
  ∀ l ∈ more, ∃ l' ∈ hits, l'.line = l.line ∧ l'.hit.line = l.hit.line

theorem lineHits_append {d : Document} {ts us : List Token} {hits more : List Leaf}
    (h : lineHits d ts = .ok hits) (hmore : lineHits d (ts ++ us) = .ok more) :
    Among more hits := by
  intro l hl
  obtain ⟨n, text, hit, ht, hm, rfl⟩ := (mem_lineHits hmore l).mp hl
  obtain ⟨hit', hm'⟩ := matchLine_of_append hm
  exact ⟨_, (mem_lineHits h _).mpr ⟨n, text, hit', ht, hm', rfl⟩, rfl,
    (line_of_matchLine hm').trans (line_of_matchLine hm).symm⟩

theorem nameHits_append {ss : List Symbol} {ts us : List Token} {hits more : List Leaf}
    (h : nameHits ts ss = .ok hits) (hmore : nameHits (ts ++ us) ss = .ok more) :
    Among more hits := by
  intro l hl
  obtain ⟨s, hs, hit, hm, rfl⟩ := (mem_nameHits hmore l).mp hl
  obtain ⟨hit', hm'⟩ := matchLine_of_append hm
  exact ⟨_, (mem_nameHits h _).mpr ⟨s, hs, hit', hm', rfl⟩, rfl,
    (line_of_matchLine hm').trans (line_of_matchLine hm).symm⟩

/-! ## Results -/

/-- Where a hit is taken depends on its line and its kinds. -/
theorem takenAt_congr {l l' : Leaf} (h : l'.line = l.line) (ks : Option (List Kind)) :
    (⟨l', ks⟩ : Arrival).takenAt = (⟨l, ks⟩ : Arrival).takenAt := by
  funext st
  simp only [Arrival.takenAt, Arrival.startsAt, Arrival.fitsIn, Arrival.admits, h]

theorem resultMarks_arrivals {hits more : List Leaf} (h : Among more hits)
    (ks : Option (List Kind)) (t : Tree) :
    resultMarks [] 0 (t.insertAll (arrivals ks more)) ⊆
      resultMarks [] 0 (t.insertAll (arrivals ks hits)) := by
  intro m
  rw [mem_resultMarks_insertAll, mem_resultMarks_insertAll]
  rintro (hm | ⟨a, ha, st, hst, rfl⟩)
  · exact Or.inl hm
  · obtain ⟨l, hl, rfl⟩ := List.mem_map.mp ha
    obtain ⟨l', hl', hline, -⟩ := h l hl
    refine Or.inr ⟨⟨l', ks⟩, List.mem_map.mpr ⟨l', hl', rfl⟩, st, ?_, ?_⟩
    · rwa [takenAt_congr hline]
    · rw [hline]

theorem resultMarks_withNames {hits more : List Leaf} (h : Among more hits)
    (ks : Option (List Kind)) (t : Tree) :
    resultMarks [] 0 (withNames more t ks) ⊆ resultMarks [] 0 (withNames hits t ks) := by
  cases ks with
  | none => exact resultMarks_arrivals h none t
  | some ks =>
    intro m
    rw [withNames, withNames, mem_resultMarks_markWhere, mem_resultMarks_markWhere]
    rintro (hm | ⟨st, hst, he, hp, rfl⟩)
    · exact Or.inl hm
    · refine Or.inr ⟨st, hst, he, ?_, rfl⟩
      obtain ⟨hk, hl⟩ := Bool.and_eq_true_iff.mp hp
      obtain ⟨l, hl, hline⟩ := List.mem_map.mp (List.contains_iff_mem.mp hl)
      obtain ⟨l', hl', -, hline'⟩ := h l hl
      exact Bool.and_eq_true_iff.mpr
        ⟨hk, List.contains_iff_mem.mpr (List.mem_map.mpr ⟨l', hl', hline'.trans hline⟩)⟩

/-- A pass over more words makes nothing a result that the first words do not. -/
theorem resultMarks_passTokens {mode : Mode} {d : Document} {ks : Option (List Kind)}
    {ts us : List Token} {t t₁ t₂ : Tree} (h₁ : passTokens mode d ks ts t = .ok t₁)
    (h₂ : passTokens mode d ks (ts ++ us) t = .ok t₂) :
    resultMarks [] 0 t₂ ⊆ resultMarks [] 0 t₁ := by
  by_cases hm : mode = .text
  · subst hm
    obtain ⟨hits, hh, rfl⟩ := passTokens_text h₁
    obtain ⟨more, hmore, rfl⟩ := passTokens_text h₂
    exact resultMarks_arrivals (lineHits_append hh hmore) ks t
  · obtain ⟨hits, hh, rfl⟩ := passTokens_names hm h₁
    obtain ⟨more, hmore, rfl⟩ := passTokens_names hm h₂
    exact resultMarks_withNames (nameHits_append hh hmore) ks t

theorem resultMarks_pass {mode : Mode} {d : Document} {q : Query} (hq : q.tokens?.isSome = true)
    {us : List Token} {t t₁ t₂ : Tree} (h₁ : pass mode d t q = .ok t₁)
    (h₂ : pass mode d t (q.extend us) = .ok t₂) :
    resultMarks [] 0 t₂ ⊆ resultMarks [] 0 t₁ := by
  cases q with
  | none | kinds => cases hq
  | tokens => exact resultMarks_passTokens h₁ h₂
  | kindsAndTokens => exact resultMarks_passTokens h₁ h₂

/-- **More words narrow an outline.** Let a query that is read as words, with or without kinds, be
applied in a search of an outline, and the same query with more typed behind a space in a search of
the same outline. Then the longer query is read as the shorter one with more words, and every row on
screen after it stands for something that is on screen after the shorter one: for the same symbol,
or for the same line below the same symbol. -/
theorem visible_narrows {s s' : Search} (hk : s.Kin s') {c : Char} (hs : s.sentinel = [c])
    (hc : isBlank c = false) {d : Document} {raw extra : Text} {s₁ s₂ : Search} {o₁ o₂ : Outcome}
    (h₁ : s.apply d raw = (s₁, .ok o₁)) (hq : o₁.query.tokens?.isSome = true)
    (h₂ : s'.apply d (raw ++ ' ' :: extra) = (s₂, .ok o₂)) :
    o₂.query = o₁.query.extend (tokenize extra) ∧
      s₂.tree.visible.map (·.mark s₂.tree) ⊆ s₁.tree.visible.map (·.mark s₁.tree) := by
  have hask : o₂.query = o₁.query.extend (tokenize extra) := by
    rw [query_of_apply h₁] at hq ⊢
    rw [query_of_apply h₂, ← hk.asked, asked_append hs hc hq]
  have hmore : o₂.query.tokens?.isSome = true := by rw [hask, Query.isSome_tokens?_extend, hq]
  obtain ⟨-, hp₁, -⟩ := apply_ok h₁ (Query.ne_none_of_isSome_tokens? hq)
  obtain ⟨-, hp₂, -⟩ := apply_ok h₂ (Query.ne_none_of_isSome_tokens? hmore)
  have hbare : s'.bare = s.bare := by rw [bare, bare, hk.symbols]
  have hresults : resultMarks [] 0 s₂.tree ⊆ resultMarks [] 0 s₁.tree := by
    rw [hask, hbare, ← hk.mode] at hp₂
    exact resultMarks_pass hq hp₁ hp₂
  refine ⟨hask, fun m hm => ?_⟩
  obtain ⟨result, hresult, hpath⟩ := (mem_map_mark_visible (pass_trim (trim_blank _) hp₂)).mp hm
  exact (mem_map_mark_visible (pass_trim (trim_blank _) hp₁)).mpr
    ⟨result, hresults hresult, hpath⟩

/-- Of the two lines with an `x`, one has a `self` as well. -/
theorem visible_narrows_sample :
    let x := (sample .text).apply sampleDocument ['x']
    let more := (sample .text).apply sampleDocument "x self".toList
    (x.2.map (·.resultCount), more.2.map (·.resultCount)) = (.ok 2, .ok 1) ∧
      more.1.tree.visible.map (·.mark more.1.tree) ⊆ x.1.tree.visible.map (·.mark x.1.tree) := by
  intro x more
  have hx : x = (x.1, .ok ⟨.tokens [{ pattern := ['x'] }], ['#', 'x'], true, 2⟩) :=
    Prod.ext rfl (by decide +kernel)
  have hmore : more = (more.1, .ok ⟨.tokens [{ pattern := ['x'] }, { pattern := "self".toList }],
      "#x self".toList, true, 1⟩) :=
    Prod.ext rfl (by decide +kernel)
  refine ⟨by rw [hx, hmore]; rfl, ?_⟩
  exact (visible_narrows (.refl _) rfl (by decide) hx rfl hmore).2

end Search

end Outline
