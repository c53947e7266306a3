import Mathlib.Data.List.Nodup
import Outline.Proofs.Except
import Outline.Query.Hit
import Outline.Search.Basic

/-!
# Which lines and names are hits

The hits of a query among the lines of a document are those of the lines that satisfy all tokens,
each once and in order (`mem_lineHits`, `nodup_lineHits`); among names they are those of the names
that do, each taken for the line its symbol starts on (`mem_nameHits`).
-/
namespace Outline

/-- Whether the text of a line satisfies all tokens. -/
def accepts (tokens : List Token) (line : Nat) (text : Text) : Bool :=
  match matchLine line text tokens with
  | .ok (some _) => true
  | _ => false

theorem accepts_iff {ts : List Token} {n : Nat} {text : Text} :
    accepts ts n text = true ↔ ∃ h, matchLine n text ts = .ok (some h) := by
  unfold accepts
  split
  · rename_i h heq
    exact ⟨fun _ => ⟨h, heq⟩, fun _ => rfl⟩
  · rename_i hno
    exact ⟨nofun, fun ⟨h, heq⟩ => absurd heq (hno h)⟩

theorem matchLine_eq_some {n : Nat} {text : Text} {ts : List Token} {hit : Hit} :
    matchLine n text ts = .ok (some hit) ↔
      ∃ r, matchSpans text ts = .ok (some r) ∧ hit = ⟨n, r⟩ := by
  rw [matchLine, bind_eq_ok]
  constructor
  · rintro ⟨_ | r, hr, h⟩
    · cases h
    · cases h
      exact ⟨r, hr, rfl⟩
  · rintro ⟨r, hr, rfl⟩
    exact ⟨some r, hr, rfl⟩

theorem matchLine_eq_none {n : Nat} {text : Text} {ts : List Token} :
    matchLine n text ts = .ok none ↔ matchSpans text ts = .ok none := by
  rw [matchLine, bind_eq_ok]
  constructor
  · rintro ⟨_ | r, hr, h⟩
    · exact hr
    · cases h
  · exact fun h => ⟨none, h, rfl⟩

theorem line_of_matchLine {n : Nat} {text : Text} {ts : List Token} {h : Hit}
    (hm : matchLine n text ts = .ok (some h)) : h.line = n := by
  obtain ⟨_, -, rfl⟩ := matchLine_eq_some.mp hm
  rfl

/-! ## One word -/

/-- A word that was looked for lets a text through if it was found, or negated and not found. -/
theorem Token.spans?_of_found {t : Token} {text : Text} {found : Option Span}
    (h : t.locate text = .ok (some found)) :
    t.spans? text = .ok (if found.isSome = !t.negate then some found.toList else none) := by
  rw [spans?, h]
  cases found <;> cases hn : t.negate <;> rfl

/-- A word that a text satisfies occurs in it and is not negated, or the other way round. -/
theorem Token.spans?_eq_some {t : Token} {text : Text} {ss : List Span} :
    t.spans? text = .ok (some ss) ↔
      ∃ found, t.locate text = .ok (some found) ∧ found.isSome = !t.negate ∧ ss = found.toList := by
  constructor
  · intro h
    obtain ⟨_ | found, hlocate, hrest⟩ := bind_eq_ok.mp h
    · cases hrest
    · rw [Token.spans?_of_found hlocate] at h
      split at h
      · rename_i hneg
        cases h
        exact ⟨found, hlocate, hneg, rfl⟩
      · cases h
  · rintro ⟨found, hlocate, hneg, rfl⟩
    rw [Token.spans?_of_found hlocate, if_pos hneg]

/-! ## More words -/

theorem matchSpans_cons {text : Text} {t : Token} {ts : List Token} {r : List Span} :
    matchSpans text (t :: ts) = .ok (some r) ↔
      ∃ ss rest, t.spans? text = .ok (some ss) ∧ matchSpans text ts = .ok (some rest) ∧
        r = ss ++ rest := by
  rw [matchSpans, bind_eq_ok]
  constructor
  · rintro ⟨found, hfound, h⟩
    cases found with
    | none => cases h
    | some ss =>
      obtain ⟨later, hlater, h⟩ := bind_eq_ok.mp h
      cases later with
      | none => cases h
      | some rest =>
        cases h
        exact ⟨ss, rest, hfound, hlater, rfl⟩
  · rintro ⟨ss, rest, hss, hrest, rfl⟩
    exact ⟨some ss, hss, bind_eq_ok.mpr ⟨some rest, hrest, rfl⟩⟩

/-- A text satisfies more words if it satisfies the first and the others, each leaving what it would
leave alone. -/
theorem matchSpans_append {text : Text} {ts us : List Token} {r : List Span} :
    matchSpans text (ts ++ us) = .ok (some r) ↔
      ∃ ss rest, matchSpans text ts = .ok (some ss) ∧ matchSpans text us = .ok (some rest) ∧
        r = ss ++ rest := by
  induction ts generalizing r with
  | nil => simp [matchSpans]
  | cons t ts ih =>
    simp only [List.cons_append, matchSpans_cons, ih]
    constructor
    · rintro ⟨first, later, hfirst, ⟨ss, rest, hss, hrest, rfl⟩, rfl⟩
      exact ⟨first ++ ss, rest, ⟨first, ss, hfirst, hss, rfl⟩, hrest, (List.append_assoc ..).symm⟩
    · rintro ⟨_, rest, ⟨first, ss, hfirst, hss, rfl⟩, hrest, rfl⟩
      exact ⟨first, ss ++ rest, hfirst, ⟨ss, rest, hss, hrest, rfl⟩, List.append_assoc ..⟩

/-- A line that is a hit of more words is a hit of the first ones. -/
theorem matchLine_of_append {n : Nat} {text : Text} {ts us : List Token} {h : Hit}
    (hm : matchLine n text (ts ++ us) = .ok (some h)) :
    ∃ h', matchLine n text ts = .ok (some h') := by
  obtain ⟨r, hr, -⟩ := matchLine_eq_some.mp hm
  obtain ⟨ss, -, hss, -⟩ := matchSpans_append.mp hr
  exact ⟨⟨n, ss⟩, matchLine_eq_some.mpr ⟨ss, hss, rfl⟩⟩

/-! ## Lines -/

theorem hitsFrom_cons {ts : List Token} {n : Nat} {text : Text} {rest : List Text}
    {hs : List Hit} (h : hitsFrom ts n (text :: rest) = .ok hs) :
    ∃ hit later, matchLine n text ts = .ok hit ∧ hitsFrom ts (n + 1) rest = .ok later ∧
      hs = hit.toList ++ later := by
  obtain ⟨hit, hm, h⟩ := bind_eq_ok.mp h
  obtain ⟨later, hl, h⟩ := bind_eq_ok.mp h
  exact ⟨hit, later, hm, hl, by cases h; rfl⟩

theorem mem_hitsFrom {ts : List Token} {n : Nat} {texts : List Text} {hs : List Hit}
    (h : hitsFrom ts n texts = .ok hs) (x : Hit) :
    x ∈ hs ↔ ∃ i text, texts[i]? = some text ∧ matchLine (n + i) text ts = .ok (some x) := by
  induction texts generalizing n hs with
  | nil => cases h; simp
  | cons text rest ih =>
    obtain ⟨hit, later, hm, hl, rfl⟩ := hitsFrom_cons h
    rw [List.mem_append, ih hl]
    constructor
    · rintro (hx | ⟨i, text', ht, hx⟩)
      · obtain rfl : hit = some x := by simpa using hx
        exact ⟨0, text, rfl, hm⟩
      · exact ⟨i + 1, text', ht, by rwa [show n + (i + 1) = n + 1 + i by omega]⟩
    · rintro ⟨i, text', ht, hx⟩
      cases i with
      | zero =>
        obtain rfl : text = text' := by simpa using ht
        rw [Nat.add_zero, hm] at hx
        obtain rfl : hit = some x := by simpa using hx
        exact Or.inl (by simp)
      | succ i =>
        exact Or.inr ⟨i, text', ht, by rwa [show n + 1 + i = n + (i + 1) by omega]⟩

theorem pairwise_hitsFrom {ts : List Token} {n : Nat} {texts : List Text} {hs : List Hit}
    (h : hitsFrom ts n texts = .ok hs) : hs.Pairwise (·.line < ·.line) := by
  induction texts generalizing n hs with
  | nil => cases h; exact .nil
  | cons text rest ih =>
    obtain ⟨hit, later, hm, hl, rfl⟩ := hitsFrom_cons h
    cases hit with
    | none => exact ih hl
    | some x =>
      refine List.pairwise_cons.mpr ⟨fun y hy => ?_, ih hl⟩
      obtain ⟨i, text', -, hy⟩ := (mem_hitsFrom hl y).mp hy
      rw [line_of_matchLine hm, line_of_matchLine hy]
      omega

namespace Search

theorem lineHits_ok {d : Document} {ts : List Token} {ls : List Leaf}
    (h : lineHits d ts = .ok ls) :
    ∃ hs, d.hits ts = .ok hs ∧
      ls = hs.map fun h => ⟨Line.whole h.line ((d.lines[h.line]?).getD []), h⟩ := by
  obtain ⟨hs, hh, h⟩ := bind_eq_ok.mp h
  exact ⟨hs, hh, by cases h; rfl⟩

theorem mem_lineHits {d : Document} {ts : List Token} {ls : List Leaf}
    (h : lineHits d ts = .ok ls) (l : Leaf) :
    l ∈ ls ↔ ∃ n text hit, d.lines[n]? = some text ∧ matchLine n text ts = .ok (some hit) ∧
      l = ⟨Line.whole n text, hit⟩ := by
  obtain ⟨hs, hh, rfl⟩ := lineHits_ok h
  simp only [List.mem_map, mem_hitsFrom hh, Nat.zero_add]
  constructor
  · rintro ⟨hit, ⟨n, text, ht, hm⟩, rfl⟩
    refine ⟨n, text, hit, ht, hm, ?_⟩
    rw [line_of_matchLine hm, ht]
    rfl
  · rintro ⟨n, text, hit, ht, hm, rfl⟩
    refine ⟨hit, ⟨n, text, ht, hm⟩, ?_⟩
    rw [line_of_matchLine hm, ht]
    rfl

theorem nodup_lineHits {d : Document} {ts : List Token} {ls : List Leaf}
    (h : lineHits d ts = .ok ls) : (ls.map (·.line.number)).Nodup := by
  obtain ⟨hs, hh, rfl⟩ := lineHits_ok h
  rw [List.map_map]
  exact List.pairwise_map.mpr ((pairwise_hitsFrom hh).imp fun h => Nat.ne_of_lt h)

/-! ## Names -/

theorem mem_nameHits {ts : List Token} {ss : List Symbol} {ls : List Leaf}
    (h : nameHits ts ss = .ok ls) (l : Leaf) :
    l ∈ ls ↔ ∃ s ∈ ss, ∃ hit, matchLine s.startLine s.name ts = .ok (some hit) ∧
      l = ⟨Line.whole s.startLine s.name, hit⟩ := by
  induction ss generalizing ls with
  | nil => cases h; simp
  | cons s ss ih =>
    obtain ⟨hit, hm, h⟩ := bind_eq_ok.mp h
    obtain ⟨later, hl, h⟩ := bind_eq_ok.mp h
    cases h
    simp only [List.mem_append, ih hl, List.mem_cons, exists_eq_or_imp, hm, Except.ok.injEq]
    refine or_congr_left ?_
    cases hit <;> simp

end Search

end Outline
