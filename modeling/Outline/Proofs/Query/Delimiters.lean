import Mathlib.Data.List.TakeWhile
import Outline.Proofs.Except
import Outline.Proofs.Pattern.Runs
import Outline.Query.RegexToken

/-!
# Delimiters of pattern tokens

A pattern token is cut from its end: letters, a slash, and the body in front of it
(`split?_eq_some_iff`). The pattern `^/(.*?)/([gimsuy]*)$` says the same in other words. Its first
group takes up as few characters as it can and its second as many, but a match has to end where the
text does, and no letter is a slash; so from every text there is at most one way, which both kinds
of repetition find (`captured_delimiters`).
-/
namespace Outline.RegexToken

open Pattern

/-! ## From the end -/

/-- The text is a slash, the body, a slash and the letters, and perhaps a line feed. -/
structure Delimits (t body letters : Text) : Prop where
  known : ∀ c ∈ letters, isLetter c = true
  text : t = '/' :: body ++ '/' :: letters ∨ t = '/' :: body ++ '/' :: letters ++ ['\n']

theorem dropLineFeed_append (t : Text) : dropLineFeed (t ++ ['\n']) = t := by
  simp [dropLineFeed]

theorem eq_dropLineFeed (t : Text) : t = dropLineFeed t ∨ t = dropLineFeed t ++ ['\n'] := by
  unfold dropLineFeed
  split
  · rename_i h
    obtain ⟨front, rfl⟩ := List.getLast?_eq_some_iff.mp h
    exact .inr (by simp)
  · exact .inl rfl

/-- A slash with letters behind it does not end in a line feed. -/
theorem dropLineFeed_delimited {body letters : Text} (h : ∀ c ∈ letters, isLetter c = true) :
    dropLineFeed (body ++ '/' :: letters) = body ++ '/' :: letters := by
  refine if_neg fun hlast => ?_
  rw [List.getLast?_append, List.getLast?_cons, Option.some_or] at hlast
  cases hend : letters.getLast? with
  | none => simp [hend] at hlast
  | some c =>
    have hc : c = '\n' := by simpa [hend] using hlast
    exact absurd (h c (List.mem_of_getLast? hend)) (by rw [hc]; decide)

theorem split?_eq_some_iff {t body letters : Text} :
    split? t = some (body, letters) ↔ Delimits t body letters := by
  constructor
  · intro h
    unfold split? at h
    split at h
    · rename_i rest
      dsimp only at h
      split at h
      · rename_i backward hbackward
        cases h
        have hcut : dropLineFeed rest = backward.reverse ++
            '/' :: ((dropLineFeed rest).reverse.takeWhile isLetter).reverse := by
          have hparts := List.prefix_iff_eq_append.mp
            ((dropLineFeed rest).reverse.takeWhile_prefix isLetter)
          rw [hbackward] at hparts
          have hreverse := congrArg List.reverse hparts
          simpa using hreverse.symm
        refine ⟨fun c hc => List.mem_takeWhile_imp (List.mem_reverse.mp hc), ?_⟩
        rw [List.cons_append, ← hcut]
        exact (eq_dropLineFeed rest).imp (congrArg _) (congrArg _)
      · cases h
    · cases h
  · rintro ⟨hletters, htext⟩
    obtain ⟨rest, rfl, hrest⟩ : ∃ rest, t = '/' :: rest ∧ dropLineFeed rest =
        body ++ '/' :: letters := by
      rcases htext with rfl | rfl
      · exact ⟨_, rfl, dropLineFeed_delimited hletters⟩
      · exact ⟨_, rfl, dropLineFeed_append _⟩
    have hbackward : (dropLineFeed rest).reverse = letters.reverse ++ '/' :: body.reverse := by
      simp [hrest]
    have htake : (letters.reverse ++ '/' :: body.reverse).takeWhile isLetter = letters.reverse := by
      rw [List.takeWhile_append_of_pos fun c hc => hletters c (List.mem_reverse.mp hc)]
      rw [List.takeWhile_cons_of_neg (by decide), List.append_nil]
    rw [split?, hbackward, htake, List.drop_left]
    simp

/-! ## By the pattern -/

/-- What `^/(.*?)/([gimsuy]*)$` is read as where the dot takes line feeds too. -/
def delimiters : Compiled where
  expr := .seq (.atom (.anchor .lineStart)) (.seq (.atom (.literal 47))
    (.seq (.capture 1 (.repeated .lazy 0 none (.atom .any))) (.seq (.atom (.literal 47))
      (.seq (.capture 2 (.repeated .greedy 0 none (.atom (.set false
          [.one 103, .one 105, .one 109, .one 115, .one 117, .one 121]))))
        (.atom (.anchor .lineEnd))))))
  flags := { dotAll := true }
  groups := 2

theorem read_delimiters :
    read { dotAll := true } "^/(.*?)/([gimsuy]*)$".toList = .ok delimiters :=
  toOption_eq_some.mp (by decide +kernel)

/-- What the groups match where a pattern matches from the start of a text. -/
def captured? (c : Compiled) (t : Text) : Option (List (Option Text)) :=
  (c.expr.run t.toArray c.flags (State.start c.groups 0) some).map fun s =>
    (List.range c.groups).map fun g =>
      (s.group? (g + 1)).map fun (first, last) => (t.drop first).take (last - first)

theorem toNat_beq (c d : Char) : (c.toNat == d.toNat) = (c == d) := by
  rw [Bool.eq_iff_iff, beq_iff_eq, beq_iff_eq, Char.toNat_inj]

theorem run_slash (t : Text) :
    (Expr.atom (.literal 47)).run t.toArray { dotAll := true } = Matcher.one t (· == '/') :=
  Matcher.run_eq_one nofun nofun fun c => toNat_beq c '/'

theorem run_any (t : Text) :
    (Expr.atom .any).run t.toArray { dotAll := true } = Matcher.one t fun _ => true :=
  Matcher.run_eq_one nofun nofun fun _ => rfl

theorem run_letter (t : Text) :
    (Expr.atom (.set false [.one 103, .one 105, .one 109, .one 115, .one 117, .one 121])).run
      t.toArray { dotAll := true } = Matcher.one t isLetter := by
  refine Matcher.run_eq_one nofun nofun fun c => ?_
  have hset : ∀ l : List Char, (l.map fun d => Member.one d.toNat).any (·.holds false c.toNat) =
      l.contains c := fun l => by
    simp only [List.any_map, Function.comp_def, Member.holds, toNat_beq, List.any_beq]
  simpa [Atom.accepts, setHolds, Flags.folding, isLetter] using
    hset ['g', 'i', 'm', 's', 'u', 'y']

/-- The end of a match with a body of `n` characters and `m` letters. -/
def stopped (n m : Nat) : State where
  pos := 1 + n + 1 + m
  opened := [some 1, some (1 + n + 1)]
  closed := [some (1 + n), some (1 + n + 1 + m)]

theorem run_delimiters (t : Text) :
    delimiters.expr.run t.toArray delimiters.flags (State.start delimiters.groups 0) some =
      if t[0]? = some '/' then
        (Matcher.strides (fun _ => true) (t.drop 1)).findSome? fun n =>
          if t[1 + n]? = some '/' then
            (Matcher.strides isLetter (t.drop (1 + n + 1))).reverse.findSome? fun m =>
              if Anchor.lineEnd.holds t.toArray { dotAll := true } (1 + n + 1 + m) then
                some (stopped n m)
              else none
          else none
      else none := by
  have hstart : Anchor.lineStart.holds t.toArray { dotAll := true } 0 = true := rfl
  calc delimiters.expr.run t.toArray delimiters.flags (State.start delimiters.groups 0) some
    _ = if Anchor.lineStart.holds t.toArray { dotAll := true } 0 then
          (Expr.atom (.literal 47)).run t.toArray { dotAll := true } ⟨0, [none, none], [none, none]⟩
              fun s =>
            Matcher.lazy t.toArray.size ((Expr.atom .any).run t.toArray { dotAll := true }) none
              { s with opened := s.opened.set 0 (some s.pos) } fun s =>
              (Expr.atom (.literal 47)).run t.toArray { dotAll := true }
                { s with closed := s.closed.set 0 (some s.pos) } fun s =>
                Matcher.greedy t.toArray.size ((Expr.atom (.set false [.one 103, .one 105,
                    .one 109, .one 115, .one 117, .one 121])).run t.toArray { dotAll := true }) none
                  { s with opened := s.opened.set 1 (some s.pos) } fun s =>
                  if Anchor.lineEnd.holds t.toArray { dotAll := true } s.pos then
                    some { s with closed := s.closed.set 1 (some s.pos) }
                  else none
        else none := rfl
    _ = _ := by
      simp only [hstart, if_true, run_slash, run_any, run_letter, List.size_toArray,
        Matcher.lazy_one, Matcher.greedy_one, Matcher.one_char]
      rfl

theorem lineEnd_holds {t : Text} {n : Nat} :
    Anchor.lineEnd.holds t.toArray { dotAll := true } n = true ↔
      n = t.length ∨ t.drop n = ['\n'] := by
  have hlast : t.drop n = ['\n'] ↔ t[n]? = some '\n' ∧ n + 1 = t.length := by
    rw [Matcher.drop_eq_cons_iff, List.drop_eq_nil_iff]
    refine and_congr_right fun hc => ?_
    have := (List.getElem?_eq_some_iff.mp hc).1
    omega
  simp [Anchor.holds, lineFeedAt, hlast]

/-- The groups of a match are the body and the letters. -/
theorem delimits_of_captured {t : Text} {gs : List (Option Text)}
    (h : captured? delimiters t = some gs) :
    ∃ body letters, Delimits t body letters ∧ gs = [some body, some letters] := by
  obtain ⟨r, hrun, rfl⟩ := Option.map_eq_some_iff.mp h
  rw [run_delimiters, Option.ite_none_right_eq_some] at hrun
  obtain ⟨hfirst, hrun⟩ := hrun
  obtain ⟨n, -, hrun⟩ := List.exists_of_findSome?_eq_some hrun
  obtain ⟨hclose, hrun⟩ := Option.ite_none_right_eq_some.mp hrun
  obtain ⟨m, hm, hrun⟩ := List.exists_of_findSome?_eq_some hrun
  obtain ⟨hend, hrun⟩ := Option.ite_none_right_eq_some.mp hrun
  have hletters := (Matcher.mem_strides.mp (List.mem_reverse.mp hm)).2
  have htext : t = '/' :: (t.drop 1).take n ++ '/' :: (t.drop (1 + n + 1)).take m ++
      t.drop (1 + n + 1 + m) := by
    have hslash := Matcher.drop_eq_cons_iff.mpr ⟨hfirst, rfl⟩
    have hslash' := Matcher.drop_eq_cons_iff.mpr ⟨hclose, rfl⟩
    calc t
      _ = '/' :: t.drop 1 := hslash
      _ = '/' :: ((t.drop 1).take n ++ t.drop (1 + n)) := by
        rw [← List.drop_drop, List.take_append_drop]
      _ = '/' :: ((t.drop 1).take n ++ '/' :: ((t.drop (1 + n + 1)).take m ++
          t.drop (1 + n + 1 + m))) := by
        rw [hslash', ← List.drop_drop (i := m), List.take_append_drop]
      _ = _ := by simp
  refine ⟨(t.drop 1).take n, (t.drop (1 + n + 1)).take m, ⟨hletters, ?_⟩, ?_⟩
  · rcases lineEnd_holds.mp hend with h | h
    · rw [List.drop_eq_nil_iff.mpr (Nat.le_of_eq h.symm), List.append_nil] at htext
      exact .inl htext
    · rw [h] at htext
      exact .inr htext
  · cases hrun
    simp [delimiters, stopped, State.group?, List.range_succ]

theorem captured_of_delimits {t body letters : Text} (h : Delimits t body letters) :
    (captured? delimiters t).isSome = true := by
  rw [captured?, Option.isSome_map, run_delimiters]
  obtain ⟨tail, htail, htext⟩ : ∃ tail, (tail = [] ∨ tail = ['\n']) ∧
      t = '/' :: body ++ '/' :: (letters ++ tail) := by
    rcases h.text with h | h
    · exact ⟨[], .inl rfl, by simp [h]⟩
    · exact ⟨['\n'], .inr rfl, by simp [h]⟩
  have hslash : t.drop (1 + body.length) = '/' :: (letters ++ tail) := by
    rw [htext, List.drop_left' (by simp [Nat.add_comm])]
  obtain ⟨hclose, hrest⟩ := Matcher.drop_eq_cons_iff.mp hslash
  have htail' : t.drop (1 + body.length + 1 + letters.length) = tail := by
    rw [← List.drop_drop, hrest, List.drop_left]
  have hend : Anchor.lineEnd.holds t.toArray { dotAll := true }
      (1 + body.length + 1 + letters.length) = true := by
    refine lineEnd_holds.mpr (htail.imp (fun h => ?_) fun h => htail'.trans h)
    simp [htext, h]
    omega
  rw [if_pos (by rw [htext]; rfl), List.findSome?_isSome_iff]
  refine ⟨body.length, Matcher.mem_strides.mpr ⟨by simp [htext], fun _ _ => rfl⟩, ?_⟩
  rw [if_pos hclose, List.findSome?_isSome_iff]
  refine ⟨letters.length, List.mem_reverse.mpr (Matcher.mem_strides.mpr ⟨?_, ?_⟩), ?_⟩
  · simp [hrest]
  · rw [hrest, List.take_left]
    exact h.known
  · rw [if_pos hend]
    rfl

/-- **The pattern of the delimiters** cuts a text at its last slash. -/
theorem captured_delimiters (t : Text) :
    captured? delimiters t = (split? t).map fun (body, letters) => [some body, some letters] := by
  cases hs : split? t with
  | none =>
    rw [Option.map_none, Option.eq_none_iff_forall_ne_some]
    intro gs hgs
    obtain ⟨body, letters, hd, -⟩ := delimits_of_captured hgs
    rw [split?_eq_some_iff.mpr hd] at hs
    cases hs
  | some cut =>
    obtain ⟨gs, hgs⟩ := Option.isSome_iff_exists.mp
      (captured_of_delimits (split?_eq_some_iff.mp hs))
    obtain ⟨body, letters, hd, rfl⟩ := delimits_of_captured hgs
    rw [split?_eq_some_iff.mpr hd] at hs
    cases hs
    exact hgs

/-! ## Compiling -/

theorem flags_eq (letters : Text) :
    flags letters =
      { ignoreCase := 'i' ∈ letters, multiLine := 'm' ∈ letters, dotAll := 's' ∈ letters } := by
  simp only [flags, List.contains_eq_mem]

/-- What is compiled is the body under the switches, and nothing of it only when it is malformed. -/
theorem compile?_of_split {t body letters : Text} (h : split? t = some (body, letters)) :
    (∀ p, compile? t = .ok (some p) ↔ read (flags letters) body = .ok p) ∧
      (compile? t = .ok none ↔ read (flags letters) body = .error .malformed) := by
  rw [compile?, h]
  dsimp only
  cases read (flags letters) body with
  | ok p => simp
  | error f => cases f <;> simp

/-- **The body of a pattern token stands between its first slash and its last.** The pattern of the
delimiters matches just the tokens that have a body and letters, and its groups are these. Whatever
slashes the body holds, exactly the body is compiled, with the switches that the letters `i`, `m`
and `s` turn on, and nothing comes of it exactly where the body is malformed. A line feed behind the
letters changes nothing. Of a text in any other form nothing comes either. -/
theorem compile_delimited :
    (∃ c, read { dotAll := true } "^/(.*?)/([gimsuy]*)$".toList = .ok c ∧
      ∀ t, captured? c t = (split? t).map fun (body, letters) => [some body, some letters]) ∧
    (∀ body letters tail : Text, (∀ c ∈ letters, isLetter c = true) →
      tail = [] ∨ tail = ['\n'] →
      let t := '/' :: body ++ '/' :: letters ++ tail
      let result := read
        { ignoreCase := 'i' ∈ letters, multiLine := 'm' ∈ letters, dotAll := 's' ∈ letters } body
      split? t = some (body, letters) ∧
      (∀ p, compile? t = .ok (some p) ↔ result = .ok p) ∧
      (compile? t = .ok none ↔ result = .error .malformed)) ∧
    ∀ t : Text, (∀ body letters, (∀ c ∈ letters, isLetter c = true) →
        t ≠ '/' :: body ++ '/' :: letters ∧ t ≠ '/' :: body ++ '/' :: letters ++ ['\n']) →
      split? t = none ∧ compile? t = .ok none := by
  refine ⟨⟨delimiters, read_delimiters, captured_delimiters⟩,
    fun body letters tail hletters htail => ?_, fun t ht => ?_⟩
  · intro t result
    have hsplit : split? t = some (body, letters) :=
      split?_eq_some_iff.mpr ⟨hletters, htail.imp (by rintro rfl; simp [t]) (by rintro rfl; rfl)⟩
    have hcompile := compile?_of_split hsplit
    rw [flags_eq] at hcompile
    exact ⟨hsplit, hcompile⟩
  · have hnone : split? t = none := by
      rw [Option.eq_none_iff_forall_ne_some]
      rintro ⟨body, letters⟩ hsplit
      obtain ⟨hletters, htext⟩ := split?_eq_some_iff.mp hsplit
      obtain ⟨hplain, hfeed⟩ := ht body letters hletters
      exact htext.elim hplain hfeed
    exact ⟨hnone, by rw [compile?, hnone]⟩

/-- Letters between slashes belong to the body. -/
example : split? "/a/g/mi\n".toList = some ("a/g".toList, ['m', 'i']) := by decide

end Outline.RegexToken
