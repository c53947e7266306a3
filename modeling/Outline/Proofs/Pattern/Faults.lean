import Outline.Pattern.Reader
import Outline.Proofs.Except

/-!
# How patterns are turned down

Nearly always a pattern that cannot be read is malformed. The other reasons show in its text: for a
repetition to be turned down an opening brace and a large or long number stand there (`HasNumber`),
and for two alphabets to clash the characters of both switches (`HasBothAlphabets`). Every reading
step is shown to go on from what it found to what stands in the pattern (`Keeps`), by the steps it
is made of (`readsOn`); the main result is `shownIn_of_read`.
-/
namespace Outline.Pattern

/-- An opening brace stands in the text, and digits of some kind. -/
def HasNumber (p : Text) (kind : Text → Prop) : Prop :=
  '{' ∈ p ∧ ∃ ds, ds <:+: p ∧ (∀ d ∈ ds, isAsciiDigit d = true) ∧ kind ds

/-- The characters that turn on both alphabets stand in the text. -/
def HasBothAlphabets (p : Text) : Prop := ['(', '?', 'a', 'u'] ⊆ p

/-- Why a pattern is turned down shows in its text, unless it is just malformed. -/
def Fault.ShownIn (p : Text) : Fault → Prop
  | .malformed => True
  | .repetitionTooLarge => HasNumber p (repetitionLimit ≤ decimalNumber ·)
  | .numberTooLong digits => HasNumber p (·.length = digits) ∧ Text.digitLimit < digits
  | .clashingAlphabets => HasBothAlphabets p

theorem HasNumber.mono {p q : Text} {kind : Text → Prop} (h : HasNumber p kind) (hpq : p <:+: q) :
    HasNumber q kind := by
  obtain ⟨hbrace, ds, hds, hdigits, hkind⟩ := h
  exact ⟨hpq.subset hbrace, ds, hds.trans hpq, hdigits, hkind⟩

theorem HasBothAlphabets.mono {p q : Text} (h : HasBothAlphabets p) (hpq : p <:+: q) :
    HasBothAlphabets q := fun _ hc => hpq.subset (h hc)

/-! ## The tokens of a pattern -/

theorem mem_of_char_mem_tokens {p : Text} {c : Char} (h : .char c ∈ tokens p) : c ∈ p := by
  fun_induction tokens p with
  | case1 => cases h
  | case2 => simp at h
  | case3 d cs ih =>
    obtain h | h := List.mem_cons.mp h
    · cases h
    · exact List.mem_cons_of_mem _ (List.mem_cons_of_mem _ (ih h))
  | case4 d cs _ _ ih =>
    obtain h | h := List.mem_cons.mp h
    · cases h
      exact List.mem_cons_self ..
    · exact List.mem_cons_of_mem _ (ih h)

theorem tokens_eq_char_cons {p : Text} {d : Char} {ts : List Token} (h : tokens p = .char d :: ts) :
    ∃ q, p = d :: q ∧ ts = tokens q := by
  fun_cases tokens p with
  | case1 => cases h
  | case2 => cases h
  | case3 c cs => cases h
  | case4 c cs hlast hescape =>
    rw [tokens.eq_4 c cs hlast hescape] at h
    cases h
    exact ⟨cs, rfl, rfl⟩

theorem prefix_of_prefix_tokens {p ds : Text} (h : ds.map .char <+: tokens p) : ds <+: p := by
  induction ds generalizing p with
  | nil => exact List.nil_prefix
  | cons d ds ih =>
    obtain ⟨ts, h⟩ := h
    obtain ⟨q, rfl, hts⟩ := tokens_eq_char_cons h.symm
    exact List.cons_prefix_cons.mpr ⟨rfl, ih ⟨ts, hts⟩⟩

/-- Characters that follow each other as tokens follow each other in the text. -/
theorem infix_of_infix_tokens {p ds : Text} (h : ds.map .char <:+: tokens p) : ds <:+: p := by
  fun_induction tokens p with
  | case1 =>
    obtain rfl := List.map_eq_nil_iff.mp (List.infix_nil.mp h)
    exact List.nil_infix
  | case2 =>
    cases ds with
    | nil => exact List.nil_infix
    | cons d ds =>
      have hmem := h.subset (List.mem_cons_self ..)
      simp at hmem
  | case3 c cs ih =>
    obtain h | h := List.infix_cons_iff.mp h
    · cases ds with
      | nil => exact List.nil_infix
      | cons d ds => cases (List.cons_prefix_cons.mp h).1
    · exact (ih h).trans ((List.suffix_cons _ _).trans (List.suffix_cons _ _)).isInfix
  | case4 c cs hlast hescape ih =>
    obtain h | h := List.infix_cons_iff.mp h
    · rw [← tokens.eq_4 c cs hlast hescape] at h
      exact (prefix_of_prefix_tokens h).isInfix
    · exact (ih h).trans (List.suffix_cons _ _).isInfix

/-! ## Steps that go on from what stands in the pattern -/

/-- The switches for the alphabets stand in the text. -/
structure Flags.WrittenIn (p : Text) (f : Flags) : Prop where
  ascii : f.ascii = true → ['(', '?', 'a'] ⊆ p
  unicode : f.unicode = true → ['(', '?', 'u'] ⊆ p

theorem Flags.WrittenIn.union {p : Text} {f g : Flags} (hf : f.WrittenIn p) (hg : g.WrittenIn p) :
    (f.union g).WrittenIn p :=
  ⟨fun h => (Bool.or_eq_true_iff.mp h).elim hf.ascii hg.ascii,
    fun h => (Bool.or_eq_true_iff.mp h).elim hf.unicode hg.unicode⟩

/-- What is known while the text is read was found there. -/
structure Reader.Within (p : Text) (r : Reader) : Prop where
  ahead : r.ahead <:+ tokens p
  flags : r.flags.WrittenIn p

/-- How a step may end that should give a value with a property. -/
def Fair {α : Type} (p : Text) (Q : α → Prop) : Except Fault (α × Reader) → Prop
  | .ok (a, r) => r.Within p ∧ Q a
  | .error f => f.ShownIn p

/-- Whether a step goes on from what stands in the text, and gives values with a property. A fault
it ends with shows in the text then. -/
def Keeps {α : Type} (p : Text) (x : ReadM α) (Q : α → Prop) : Prop :=
  ∀ r : Reader, r.Within p → Fair p Q (x r)

/-- One step after the other. -/
theorem run_bind {α β : Type} (x : ReadM α) (k : α → ReadM β) (r : Reader) :
    (x >>= k) r = (x r >>= fun ar => k ar.1 ar.2) := rfl

theorem bind_eq_ok {α β : Type} {x : ReadM α} {k : α → ReadM β} {r r'' : Reader} {b : β} :
    (x >>= k) r = .ok (b, r'') ↔ ∃ a r', x r = .ok (a, r') ∧ k a r' = .ok (b, r'') := by
  rw [run_bind, Outline.bind_eq_ok, Prod.exists]

namespace Keeps

variable {p : Text} {α β : Type} {P : α → Prop} {Q : β → Prop}

theorem bind {x : ReadM α} {k : α → ReadM β} (hx : Keeps p x P)
    (hk : ∀ a, P a → Keeps p (k a) Q) : Keeps p (x >>= k) Q := by
  intro r hr
  have hfair := hx r hr
  rw [run_bind]
  cases h : x r with
  | error f =>
    rw [h] at hfair
    exact hfair
  | ok ar =>
    rw [h] at hfair
    exact hk ar.1 hfair.2 ar.2 hfair.1

theorem pure {a : α} (ha : P a) : Keeps p (Pure.pure a) P := fun _ hr => ⟨hr, ha⟩

theorem get : Keeps p (MonadState.get : ReadM Reader) (·.Within p) := fun _ hr => ⟨hr, hr⟩

theorem change {f : Reader → Reader} (hf : ∀ r, r.Within p → (f r).Within p) :
    Keeps p (modify f) fun _ => True := fun r hr => ⟨hf r hr, trivial⟩

/-- Giving up for a reason that shows in the text. -/
theorem fault {f : Fault} (h : f.ShownIn p) : Keeps p (throw f) P := fun _ _ => h

theorem malformed : Keeps p ReadM.malformed P := fault trivial

theorem fault_bind {f : Fault} (h : f.ShownIn p) {k : α → ReadM β} : Keeps p (throw f >>= k) Q :=
  (fault h).bind (P := fun _ => False) fun _ ha => ha.elim

theorem malformed_bind {k : α → ReadM β} : Keeps p (ReadM.malformed >>= k) Q :=
  fault_bind (f := .malformed) trivial

/-- A test for something that turns the pattern down. -/
theorem guard {c : Prop} [Decidable c] {f : Fault} {k : Unit → ReadM β} (hf : c → f.ShownIn p)
    (hk : ¬c → Keeps p (k ()) Q) : Keeps p (if c then throw f >>= k else k ()) Q := by
  split
  · exact fault_bind (hf ‹_›)
  · exact hk ‹_›

/-- A test for something that makes the pattern malformed. -/
theorem check {c : Prop} [Decidable c] {k : Unit → ReadM β} (hk : Keeps p (k ()) Q) :
    Keeps p (if c then ReadM.malformed >>= k else k ()) Q := guard (fun _ => trivial) fun _ => hk

/-- Two ways to come to the same step. -/
theorem either {c : Prop} [Decidable c] {x y : ReadM α} {k : α → ReadM β} (hx : Keeps p x P)
    (hy : Keeps p y P) (hk : ∀ a, P a → Keeps p (k a) Q) :
    Keeps p (if c then x >>= k else y >>= k) Q := by
  split
  · exact hx.bind hk
  · exact hy.bind hk

end Keeps

open ReadM

/-! ## Tokens -/

section

variable {p : Text}

theorem keeps_peek : Keeps p peek fun o => ∀ c, o = some (.char c) → c ∈ p := by
  unfold peek
  refine .bind .get fun r hr => .pure fun c hc => ?_
  exact mem_of_char_mem_tokens (hr.ahead.mem (List.mem_of_head? hc))

theorem keeps_sees (c : Char) : Keeps p (sees c) fun b => b = true → c ∈ p := by
  unfold sees
  refine .bind keeps_peek fun o ho => .pure fun hb => ?_
  exact ho c (by simpa using hb)

theorem keeps_advance : Keeps p advance fun _ => True := by
  unfold advance
  refine .bind .get fun r hr => .check (.change fun s hs => ?_)
  exact ⟨(List.tail_suffix _).trans hr.ahead, hs.flags⟩

theorem keeps_next : Keeps p next fun o => ∀ c, o = some (.char c) → c ∈ p := by
  unfold next
  exact .bind keeps_peek fun o ho => .bind keeps_advance fun _ _ => .pure ho

theorem keeps_accept (c : Char) : Keeps p (accept c) fun b => b = true → c ∈ p := by
  unfold accept
  refine .bind (keeps_sees c) fun b hb => ?_
  split
  · rename_i h
    exact .bind keeps_advance fun _ _ => .pure fun _ => hb h
  · exact .pure fun h => absurd h Bool.false_ne_true

theorem ahead_of_advance {r r' : Reader} {u : Unit} (h : advance r = .ok (u, r')) :
    r'.ahead = r.ahead.tail := by
  obtain ⟨s, s', hget, h⟩ := bind_eq_ok.mp h
  cases hget
  dsimp only at h
  split at h
  · cases h
  · cases h
    rfl

/-- What is taken follows what was read before. -/
theorem takeAtMost_eq_ok {q : Char → Bool} {n : Nat} {r r' : Reader} {ds : Text}
    (h : takeAtMost q n r = .ok (ds, r')) :
    ds.map .char <+: r.ahead ∧ ∀ d ∈ ds, q d = true := by
  induction n generalizing r ds with
  | zero =>
    cases h
    exact ⟨List.nil_prefix, List.forall_mem_nil _⟩
  | succ n ih =>
    rw [takeAtMost] at h
    obtain ⟨o, s, hpeek, h⟩ := bind_eq_ok.mp h
    cases hpeek
    -- only a character of the class is taken
    rcases hhead : r.ahead.head? with _ | (c | _ | _) <;> rw [hhead] at h
    case some.char =>
      dsimp only at h
      split at h
      · rename_i hq
        obtain ⟨⟨⟩, s, hadvance, h⟩ := bind_eq_ok.mp h
        obtain ⟨later, s', hlater, h⟩ := bind_eq_ok.mp h
        cases h
        obtain ⟨hfront, hall⟩ := ih hlater
        obtain ⟨rest, hrest⟩ := List.head?_eq_some_iff.mp hhead
        rw [ahead_of_advance hadvance, hrest] at hfront
        rw [hrest]
        exact ⟨List.cons_prefix_cons.mpr ⟨rfl, hfront⟩, List.forall_mem_cons.mpr ⟨hq, hall⟩⟩
      · cases h
        exact ⟨List.nil_prefix, List.forall_mem_nil _⟩
    all_goals
      cases h
      exact ⟨List.nil_prefix, List.forall_mem_nil _⟩

/-- The characters taken stand next to each other in the text. -/
theorem keeps_takeAtMost (q : Char → Bool) (n : Nat) :
    Keeps p (takeAtMost q n) fun ds => ds <:+: p ∧ ∀ d ∈ ds, q d = true := by
  have hkeeps : Keeps p (takeAtMost q n) fun _ => True := by
    induction n with
    | zero => exact .pure trivial
    | succ n ih =>
      rw [takeAtMost]
      refine .bind keeps_peek fun o _ => ?_
      split
      · split
        · exact .bind keeps_advance fun _ _ => .bind ih fun _ _ => .pure trivial
        · exact .pure trivial
      · exact .pure trivial
  intro r hr
  have hfair := hkeeps r hr
  rcases h : takeAtMost q n r with f | ⟨ds, r'⟩ <;> rw [h] at hfair
  case error => exact hfair
  case ok =>
    obtain ⟨hfront, hall⟩ := takeAtMost_eq_ok h
    exact ⟨hfair.1, infix_of_infix_tokens (hfront.isInfix.trans hr.ahead.isInfix), hall⟩

theorem keeps_takeUntil (c : Char) : Keeps p (takeUntil c) fun _ => True := by
  unfold takeUntil
  refine .bind .get fun r hr => .check ?_
  refine .bind (.change fun s hs => ?_) fun _ _ => .bind keeps_advance fun _ _ => .pure trivial
  exact ⟨(List.drop_suffix _ _).trans hr.ahead, hs.flags⟩

theorem keeps_closedWidth? (group : Nat) : Keeps p (closedWidth? group) fun _ => True := by
  unfold closedWidth?
  cases group with
  | zero => exact .pure trivial
  | succ g => exact .bind .get fun _ _ => .pure trivial

theorem keeps_checkLookBehind (group : Nat) : Keeps p (checkLookBehind group) fun _ => True := by
  unfold checkLookBehind
  refine .bind .get fun r _ => ?_
  split
  · exact .pure trivial
  · exact .bind (keeps_closedWidth? group) fun _ _ => .check (.pure trivial)

theorem keeps_groupCount : Keeps p groupCount fun _ => True :=
  .bind .get fun _ _ => .pure trivial

theorem keeps_openGroup (name : Option Text) : Keeps p (openGroup name) fun _ => True := by
  unfold openGroup
  refine .bind keeps_groupCount fun g _ => ?_
  refine .bind (.change fun s hs => ⟨hs.ahead, hs.flags⟩) fun _ _ => ?_
  split
  · refine .bind .get fun _ _ => .check ?_
    exact .bind (.change fun s hs => ⟨hs.ahead, hs.flags⟩) fun _ _ => .pure trivial
  · exact .pure trivial

theorem keeps_closeGroup (group : Nat) (width : Nat × Nat) :
    Keeps p (closeGroup group width) fun _ => True :=
  .change fun _ hs => ⟨hs.ahead, hs.flags⟩

theorem keeps_widthOf (e : Expr) : Keeps p (widthOf e) fun _ => True :=
  .bind .get fun _ _ => .pure trivial

/-! ## Escapes and sets -/

theorem keeps_readHex (n : Nat) : Keeps p (readHex n) fun _ => True :=
  .bind (keeps_takeAtMost _ _) fun _ _ => .check (.pure trivial)

theorem keeps_readCodePoint (letter : Char) : Keeps p (readCodePoint letter) fun _ => True := by
  unfold readCodePoint
  split
  · exact .bind (keeps_readHex 2) fun _ _ => .pure trivial
  · exact .bind (keeps_readHex 4) fun _ _ => .pure trivial
  · exact .bind (keeps_readHex 8) fun _ _ => .check (.pure trivial)
  · exact .pure trivial

theorem keeps_readSetEscape (c : Char) : Keeps p (readSetEscape c) fun _ => True := by
  unfold readSetEscape
  split
  · exact .pure trivial
  split
  · exact .pure trivial
  refine .bind (keeps_readCodePoint c) fun o _ => ?_
  split
  · exact .pure trivial
  split
  · exact .bind (keeps_takeAtMost _ _) fun _ _ => .check (.pure trivial)
  · exact .check (.pure trivial)

theorem keeps_readBackref (group : Nat) : Keeps p (readBackref group) fun _ => True :=
  .bind (keeps_closedWidth? group) fun _ _ => .check
    (.bind (keeps_checkLookBehind group) fun _ _ => .pure trivial)

theorem keeps_readEscape (c : Char) : Keeps p (readEscape c) fun _ => True := by
  unfold readEscape
  split
  · exact .pure trivial
  split
  · exact .pure trivial
  split
  · exact .pure trivial
  refine .bind (keeps_readCodePoint c) fun o _ => ?_
  split
  · exact .pure trivial
  split
  · exact .bind (keeps_takeAtMost _ _) fun _ _ => .pure trivial
  split
  · refine .bind keeps_peek fun o _ => ?_
    split
    · split
      · refine .bind keeps_advance fun _ _ => ?_
        dsimp only
        split
        · refine .bind keeps_peek fun o _ => ?_
          split
          · split
            · exact .bind keeps_advance fun _ _ => .check (.pure trivial)
            · exact keeps_readBackref _
          · exact keeps_readBackref _
        · exact keeps_readBackref _
      · exact keeps_readBackref _
    · exact keeps_readBackref _
  · exact .check (.pure trivial)

theorem keeps_readSetItem (t : Token) : Keeps p (readSetItem t) fun _ => True := by
  cases t with
  | char c => exact .pure trivial
  | escape c => exact keeps_readSetEscape c
  | dangling => exact .malformed

theorem keeps_readMembers (acc : List Member) (fuel : Nat) :
    Keeps p (readMembers acc fuel) fun _ => True := by
  induction fuel generalizing acc with
  | zero => exact .malformed
  | succ fuel ih =>
    rw [readMembers]
    refine .bind keeps_next fun o _ => ?_
    split
    · split
      · exact .pure trivial
      refine .bind (keeps_readSetItem _) fun m _ => .bind (keeps_accept '-') fun b _ => ?_
      split
      · refine .bind keeps_next fun o' _ => ?_
        split
        · split
          · exact .pure trivial
          refine .bind (keeps_readSetItem _) fun m' _ => ?_
          split
          · exact .check (ih _)
          · exact .malformed
        · exact .malformed
      · exact ih _
    · exact .malformed

theorem keeps_readSet : Keeps p readSet fun _ => True := by
  unfold readSet
  refine .bind (keeps_accept '^') fun negated _ => .bind .get fun r _ => ?_
  refine .bind (keeps_readMembers _ _) fun ms _ => ?_
  dsimp only
  split
  · exact .pure trivial
  · exact .pure trivial

/-! ## Switches -/

theorem writtenIn_of_flagOf? {c : Char} {f : Flags} (h : flagOf? c = some f) (hc : c ∈ p)
    (hopen : '(' ∈ p) (hmark : '?' ∈ p) : f.WrittenIn p := by
  unfold flagOf? at h
  split at h <;> cases h <;> constructor <;> intro hon <;> try cases hon
  · simp [List.cons_subset, hopen, hmark, hc]
  · simp [List.cons_subset, hopen, hmark, hc]

theorem keeps_readFlagsOn {on : Flags} {c : Char} (fuel : Nat) (hon : on.WrittenIn p) (hc : c ∈ p)
    (hopen : '(' ∈ p) (hmark : '?' ∈ p) :
    Keeps p (readFlagsOn on c fuel) fun read => read.1.WrittenIn p := by
  induction fuel generalizing on c with
  | zero => exact .malformed
  | succ fuel ih =>
    rw [readFlagsOn]
    split
    · rename_i f hf
      have hunion := hon.union (writtenIn_of_flagOf? hf hc hopen hmark)
      refine .check (.bind keeps_next fun o ho => ?_)
      split
      · exact .pure hunion
      · exact .pure hunion
      · exact .pure hunion
      · exact ih hunion (ho _ rfl)
      · exact .malformed
    · exact .malformed

theorem keeps_readFlagsOff (off : Flags) (fuel : Nat) :
    Keeps p (readFlagsOff off fuel) fun _ => True := by
  induction fuel generalizing off with
  | zero => exact .malformed
  | succ fuel ih =>
    rw [readFlagsOff]
    refine .bind keeps_next fun o _ => ?_
    split
    · split
      · refine .check (.bind (keeps_accept ':') fun b _ => ?_)
        split
        · exact .pure trivial
        · exact ih _
      · exact .malformed
    · exact .malformed

theorem keeps_readFlags {c : Char} (hc : c ∈ p) (hopen : '(' ∈ p) (hmark : '?' ∈ p) :
    Keeps p (readFlags c) fun _ => True := by
  unfold readFlags
  have hnone : Flags.WrittenIn p {} :=
    ⟨fun h => absurd h Bool.false_ne_true, fun h => absurd h Bool.false_ne_true⟩
  refine .bind .get fun r _ => .either (P := fun read => read.1.WrittenIn p) (.pure hnone)
    (keeps_readFlagsOn _ hnone hc hopen hmark) fun read hon => ?_
  dsimp only
  split
  · exact .bind (.change fun s hs => ⟨hs.ahead, hs.flags.union hon⟩) fun _ _ => .pure trivial
  · exact .check (.pure trivial)
  · exact .check (.bind (keeps_readFlagsOff _ _) fun off _ => .check (.pure trivial))

/-! ## Repetitions -/

theorem keeps_readBounds {c : Char} (hc : c = '?' ∨ c = '*' ∨ c = '+' ∨ '{' ∈ p) :
    Keeps p (readBounds c) fun _ => True := by
  unfold readBounds
  split
  · exact .pure trivial
  · exact .pure trivial
  · exact .pure trivial
  · rename_i hquestion hstar hplus
    have hbrace : '{' ∈ p := by
      rcases hc with h | h | h | h
      · exact (hquestion h).elim
      · exact (hstar h).elim
      · exact (hplus h).elim
      · exact h
    have hnumber {ds : Text} {kind : Text → Prop}
        (hds : ds <:+: p ∧ ∀ d ∈ ds, isAsciiDigit d = true) (h : kind ds) : HasNumber p kind :=
      ⟨hbrace, ds, hds.1, hds.2, h⟩
    refine .bind (keeps_sees '}') fun b _ => ?_
    split
    · exact .pure trivial
    refine .bind .get fun r hr => .bind (keeps_takeAtMost _ _) fun lo hlo => ?_
    refine .bind (keeps_accept ',') fun comma _ => ?_
    refine .either (P := fun ds => ds <:+: p ∧ ∀ d ∈ ds, isAsciiDigit d = true)
      (keeps_takeAtMost _ _) (.pure hlo) fun hi hhi => ?_
    refine .bind (keeps_accept '}') fun closed _ => ?_
    split
    · refine .guard (fun h => ⟨hnumber hlo rfl, h⟩) fun _ => ?_
      refine .guard (fun h => ?_) fun _ => ?_
      · split at h
        · exact absurd h (by decide)
        · exact hnumber hlo h
      split
      · exact .pure trivial
      refine .guard (fun h => ⟨hnumber hhi rfl, h⟩) fun _ => ?_
      exact .guard (fun h => hnumber hhi h) fun _ => .check (.pure trivial)
    · exact .bind (.change fun s hs => ⟨hr.ahead, hs.flags⟩) fun _ _ => .pure trivial

theorem keeps_readGreed : Keeps p readGreed fun _ => True := by
  unfold readGreed
  refine .bind (keeps_accept '?') fun b _ => ?_
  split
  · exact .pure trivial
  refine .bind (keeps_accept '+') fun b _ => ?_
  split
  · exact .pure trivial
  · exact .pure trivial

/-! ## Groups -/

theorem keeps_readCondition : Keeps p readCondition fun _ => True := by
  unfold readCondition
  refine .bind (keeps_takeUntil ')') fun name _ => ?_
  have hgroup (g : Nat) : Keeps p (checkLookBehind g >>= fun _ => pure g) fun _ => True :=
    .bind (keeps_checkLookBehind g) fun _ _ => .pure trivial
  dsimp only
  split
  · refine .bind .get fun r _ => ?_
    split
    · exact .bind (P := fun _ => True) (.pure trivial) fun g _ => hgroup g
    · exact .malformed_bind
  · split
    · refine .check (.bind (.change fun s hs => ⟨hs.ahead, hs.flags⟩) fun _ _ => ?_)
      exact .bind (P := fun _ => True) (.pure trivial) fun g _ => hgroup g
    · exact .malformed_bind

theorem keeps_skipComment : Keeps p skipComment fun _ => True := by
  unfold skipComment
  refine .bind .get fun r hr => .check (.bind (.change fun s hs => ?_) fun _ _ => keeps_advance)
  exact ⟨(List.drop_suffix _ _).trans hr.ahead, hs.flags⟩

theorem keeps_skipCommentGroup : Keeps p skipCommentGroup fun _ => True := by
  unfold skipCommentGroup
  refine .bind .get fun r hr => .check (.bind (.change fun s hs => ?_) fun _ _ => keeps_advance)
  exact ⟨(List.drop_suffix _ _).trans hr.ahead, hs.flags⟩

/-- The readers that call each other go on from what stands in the text, as deep as this. -/
structure ReadsOn (p : Text) (fuel : Nat) : Prop where
  choices (top verbose : Bool) (done : List (List Expr)) :
    Keeps p (readChoices top verbose done fuel) fun _ => True
  sequence (top verbose first : Bool) (acc : List Piece) :
    Keeps p (readSequence top verbose first acc fuel) fun _ => True
  group (verbose mayLead : Bool) (hopen : '(' ∈ p) :
    Keeps p (readGroup verbose mayLead fuel) fun _ => True
  body (verbose : Bool) : Keeps p (readBody verbose fuel) fun _ => True
  capture (verbose : Bool) (name : Option Text) :
    Keeps p (readCapture verbose name fuel) fun _ => True
  lookAhead (verbose positive : Bool) :
    Keeps p (readLookAhead verbose positive fuel) fun _ => True
  lookBehind (verbose positive : Bool) :
    Keeps p (readLookBehind verbose positive fuel) fun _ => True

namespace ReadsOn

variable {fuel : Nat} (ih : ReadsOn p fuel)
include ih

theorem keeps_choices (top verbose : Bool) (done : List (List Expr)) :
    Keeps p (readChoices top verbose done (fuel + 1)) fun _ => True := by
  rw [readChoices]
  refine .bind (ih.sequence _ _ _ _) fun seq _ => .bind (keeps_accept '|') fun more _ => ?_
  split
  · exact .bind .get fun r _ => ih.choices _ _ _
  · exact .pure trivial

theorem keeps_body (verbose : Bool) : Keeps p (readBody verbose (fuel + 1)) fun _ => True := by
  rw [readBody]
  exact .bind (ih.choices _ _ _) fun body _ => .bind (keeps_accept ')') fun closed _ =>
    .check (.pure trivial)

theorem keeps_capture (verbose : Bool) (name : Option Text) :
    Keeps p (readCapture verbose name (fuel + 1)) fun _ => True := by
  rw [readCapture]
  refine .bind (keeps_openGroup name) fun g _ => .bind (ih.body verbose) fun body _ => ?_
  exact .bind (keeps_widthOf _) fun width _ => .bind (keeps_closeGroup g width) fun _ _ =>
    .pure trivial

theorem keeps_lookAhead (verbose positive : Bool) :
    Keeps p (readLookAhead verbose positive (fuel + 1)) fun _ => True := by
  rw [readLookAhead]
  exact .bind (ih.body verbose) fun body _ => .pure trivial

theorem keeps_lookBehind (verbose positive : Bool) :
    Keeps p (readLookBehind verbose positive (fuel + 1)) fun _ => True := by
  rw [readLookBehind]
  refine .bind .get fun r _ => .bind keeps_groupCount fun count _ => ?_
  refine .bind (.change fun s hs => ⟨hs.ahead, hs.flags⟩) fun _ _ => ?_
  refine .bind (ih.choices _ _ _) fun body _ => ?_
  refine .bind (.change fun s hs => ⟨hs.ahead, hs.flags⟩) fun _ _ => ?_
  refine .bind (keeps_accept ')') fun closed _ => .check (.bind (keeps_widthOf _) fun width _ => ?_)
  dsimp only
  split
  · exact .bind (.change fun s hs => ⟨hs.ahead, hs.flags⟩) fun _ _ => .pure trivial
  · exact .pure trivial

theorem keeps_group (verbose mayLead : Bool) (hopen : '(' ∈ p) :
    Keeps p (readGroup verbose mayLead (fuel + 1)) fun _ => True := by
  rw [readGroup]
  refine .bind (keeps_accept '?') fun marked hmark => ?_
  split
  · exact .bind (ih.capture _ _) fun _ _ => .pure trivial
  rename_i hmarked
  refine .bind keeps_next fun o ho => ?_
  have hclose (item : Piece) (b : Bool) : Keeps p
      (if b = true then malformed >>= fun _ => pure (some [item]) else pure (some [item]))
      fun _ => True := .check (.pure trivial)
  split
  · refine .bind (keeps_accept '<') fun named _ => ?_
    split
    · exact .bind (keeps_takeUntil '>') fun name _ => .check
        (.bind (ih.capture _ _) fun _ _ => .pure trivial)
    refine .bind (keeps_accept '=') fun referred _ => ?_
    split
    · refine .bind (keeps_takeUntil ')') fun name _ => .check (.bind .get fun r _ => ?_)
      split
      · exact .bind (keeps_readBackref _) fun _ _ => .pure trivial
      · exact .malformed
    · exact .malformed
  · exact .bind (ih.body verbose) fun _ _ => .pure trivial
  · exact .bind keeps_skipCommentGroup fun _ _ => .pure trivial
  · exact .bind (ih.lookAhead _ _) fun _ _ => .pure trivial
  · exact .bind (ih.lookAhead _ _) fun _ _ => .pure trivial
  · refine .bind keeps_next fun o' _ => ?_
    split
    · exact .bind (ih.lookBehind _ _) fun _ _ => .pure trivial
    · exact .bind (ih.lookBehind _ _) fun _ _ => .pure trivial
    · exact .malformed
  · refine .bind keeps_readCondition fun g _ => .bind (ih.sequence _ _ _ _) fun yes _ => ?_
    refine .bind (keeps_accept '|') fun barred _ => ?_
    dsimp only
    split
    · refine .bind (ih.sequence _ _ _ _) fun no _ => .bind (keeps_sees '|') fun again _ => ?_
      refine .check (.bind (P := fun _ => True) (.pure trivial) fun no _ => ?_)
      exact .bind (keeps_accept ')') fun closed _ => hclose _ _
    · refine .bind (P := fun _ => True) (.pure trivial) fun no _ => ?_
      exact .bind (keeps_accept ')') fun closed _ => hclose _ _
  · exact .bind (ih.body verbose) fun _ _ => .pure trivial
  · rename_i c _ _ _ _ _ _ _ _
    have hc := ho c rfl
    refine .check (.bind (keeps_readFlags hc hopen (hmark (by simpa using hmarked))) fun o' _ => ?_)
    split
    · exact .check (.pure trivial)
    · refine .bind (ih.body _) fun body _ => ?_
      split
      · exact .pure trivial
      · exact .pure trivial
  · exact .malformed

theorem keeps_sequence (top verbose first : Bool) (acc : List Piece) :
    Keeps p (readSequence top verbose first acc (fuel + 1)) fun _ => True := by
  rw [readSequence]
  refine .bind keeps_peek fun o ho => ?_
  dsimp only
  split
  · exact .pure trivial
  · exact .pure trivial
  · exact .pure trivial
  · exact .malformed
  · exact .bind keeps_advance fun _ _ => .bind (keeps_readEscape _) fun _ _ => ih.sequence _ _ _ _
  · rename_i c _ _
    have hc := ho c rfl
    refine .bind keeps_advance fun _ _ => ?_
    split
    · exact ih.sequence _ _ _ _
    split
    · exact .bind keeps_skipComment fun _ _ => ih.sequence _ _ _ _
    split
    case h_1 => exact .bind keeps_readSet fun _ _ => ih.sequence _ _ _ _
    -- the characters that may begin a repetition
    case h_5 | h_6 | h_7 | h_8 =>
      refine .bind (keeps_readBounds (by simp [hc])) fun bounds _ => ?_
      split
      · exact ih.sequence _ _ _ _
      · split
        · exact .malformed
        · exact .check (.bind keeps_readGreed fun greed _ => ih.sequence _ _ _ _)
    case h_9 =>
      refine .bind (ih.group _ _ hc) fun pieces _ => ?_
      split
      · exact .bind .get fun r _ => ih.sequence _ _ _ _
      · exact ih.sequence _ _ _ _
    all_goals exact ih.sequence _ _ _ _

end ReadsOn

theorem readsOn (p : Text) (fuel : Nat) : ReadsOn p fuel := by
  induction fuel with
  | zero =>
    exact ⟨fun _ _ _ => .malformed, fun _ _ _ _ => .malformed, fun _ _ _ => .malformed,
      fun _ => .malformed, fun _ _ => .malformed, fun _ _ => .malformed, fun _ _ => .malformed⟩
  | succ fuel ih =>
    exact ⟨ih.keeps_choices, ih.keeps_sequence, ih.keeps_group, ih.keeps_body, ih.keeps_capture,
      ih.keeps_lookAhead, ih.keeps_lookBehind⟩

end

/-! ## Whole patterns -/

/-- A pattern that begins with neither alphabet is malformed, or why it is turned down shows in its
text. -/
theorem shownIn_of_read {flags : Flags} {p : Text} {f : Fault} (hascii : flags.ascii = false)
    (hunicode : flags.unicode = false) (h : read flags p = .error f) : f.ShownIn p := by
  have hflags : flags.WrittenIn p := ⟨fun h => absurd (hascii.symm.trans h) Bool.false_ne_true,
    fun h => absurd (hunicode.symm.trans h) Bool.false_ne_true⟩
  unfold read at h
  dsimp only at h
  split at h
  · cases h
    trivial
  rw [Outline.bind_eq_error] at h
  have hfair := (readsOn p (4 * (tokens p).length + 8)).choices true flags.verbose []
    { ahead := tokens p, flags := flags } ⟨List.suffix_rfl, hflags⟩
  rcases h with hchoices | ⟨⟨body, r⟩, hchoices, h⟩
  · rw [StateT.run] at hchoices
    rw [hchoices] at hfair
    exact hfair
  · rw [StateT.run] at hchoices
    rw [hchoices] at hfair
    obtain ⟨⟨-, hwritten⟩, -⟩ := hfair
    dsimp only at h
    split at h
    · rename_i hboth
      cases h
      have hu := hwritten.unicode hboth.2 (a := 'u') (by simp)
      simpa [Fault.ShownIn, HasBothAlphabets, hu] using hwritten.ascii hboth.1
    split at h
    · cases h
      trivial
    split at h
    · cases h
      trivial
    split at h
    · cases h
      trivial
    · cases h

end Outline.Pattern
