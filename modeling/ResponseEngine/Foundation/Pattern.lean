/-
  Foundation/Pattern.lean --- regular expressions with anchors.

  A pattern matches a part of a text, between what comes before it and what comes
  after it: `^` and `$` look at these and take nothing.  `$` matches at the end of the
  text and also before a newline that ends it, so `re.match` of a pattern between the
  two anchors takes more than its full matches (`reMatch_anchored_iff`).
-/
import ResponseEngine.Foundation.Text

set_option autoImplicit false

namespace ResponseEngine.Foundation

/-- A pattern. -/
inductive Pattern where
  /-- `^` -/
  | start
  /-- `$` -/
  | finish
  /-- a character class -/
  | one (p : CodePoint → Bool)
  /-- a character class, `{lower,upper}` times -/
  | rep (p : CodePoint → Bool) (lower upper : ℕ)
  /-- one pattern after another -/
  | seq (left right : Pattern)

namespace Pattern

/-- The newline. -/
def newline : CodePoint := .scalar '\n'

/-- Some split of a text passes a test. -/
def anySplit (t : Text) (f : Text → Text → Bool) : Bool :=
  (List.range (t.length + 1)).any fun n => f (t.take n) (t.drop n)

/-- Whether a pattern matches a part of a text, given what comes before and after. -/
def matchesAt : Pattern → Text → Text → Text → Bool
  | start, before, part, _ => before.isEmpty && part.isEmpty
  | finish, _, part, after => part.isEmpty && (after.isEmpty || decide (after = [newline]))
  | one p, _, part, _ => decide (part.length = 1) && part.all p
  | rep p lower upper, _, part, _ =>
      decide (lower ≤ part.length) && decide (part.length ≤ upper) && part.all p
  | seq left right, before, part, after =>
      anySplit part fun first second =>
        matchesAt left before first (second ++ after) &&
          matchesAt right (before ++ first) second after

/-- `re.match`: the pattern matches some beginning of the text. -/
def reMatch (pattern : Pattern) (t : Text) : Bool := anySplit t (pattern.matchesAt [])

/-- `re.fullmatch`: the pattern matches the whole text. -/
def reFullmatch (pattern : Pattern) (t : Text) : Bool := pattern.matchesAt [] t []

/-- `^...$`. -/
def anchored (pattern : Pattern) : Pattern := .seq .start (.seq pattern .finish)

/-- Neither `^` nor `$` occurs. -/
def AnchorFree : Pattern → Prop
  | start => False
  | finish => False
  | one _ => True
  | rep _ _ _ => True
  | seq left right => left.AnchorFree ∧ right.AnchorFree

theorem anySplit_iff {t : Text} {f : Text → Text → Bool} :
    anySplit t f = true ↔ ∃ first second, t = first ++ second ∧ f first second = true := by
  rw [anySplit, List.any_eq_true]
  constructor
  · intro ⟨n, _, hn⟩
    exact ⟨t.take n, t.drop n, (List.take_append_drop n t).symm, hn⟩
  · intro ⟨first, second, ht, hf⟩
    refine ⟨first.length, ?_, ?_⟩
    · rw [List.mem_range, ht, List.length_append]
      omega
    · rw [ht, List.take_left, List.drop_left]
      exact hf

/-- One pattern after another matches what the one matches, then what the other does. -/
theorem matchesAt_seq {left right : Pattern} {before part after : Text} :
    (seq left right).matchesAt before part after = true ↔
      ∃ first second, part = first ++ second ∧
        left.matchesAt before first (second ++ after) = true ∧
        right.matchesAt (before ++ first) second after = true := by
  rw [matchesAt, anySplit_iff]
  simp only [Bool.and_eq_true]

theorem matchesAt_start {before part after : Text} :
    start.matchesAt before part after = true ↔ before = [] ∧ part = [] := by
  simp [matchesAt]

theorem matchesAt_finish {before part after : Text} :
    finish.matchesAt before part after = true ↔
      part = [] ∧ (after = [] ∨ after = [newline]) := by
  simp [matchesAt]

/-- A pattern without anchors does not look around. -/
theorem matchesAt_of_anchorFree {pattern : Pattern} (h : pattern.AnchorFree)
    (before part after : Text) :
    pattern.matchesAt before part after = pattern.reFullmatch part := by
  induction pattern generalizing before part after with
  | start => exact h.elim
  | finish => exact h.elim
  | one p => rfl
  | rep p lower upper => rfl
  | seq left right ihl ihr =>
      apply Bool.eq_iff_iff.mpr
      rw [reFullmatch, matchesAt_seq, matchesAt_seq]
      simp only [ihl h.1, ihr h.2]

/-- Between the anchors the pattern matches the part, and at most a newline is left. -/
theorem matchesAt_anchored {pattern : Pattern} (h : pattern.AnchorFree) {part rest : Text} :
    pattern.anchored.matchesAt [] part rest = true ↔
      pattern.reFullmatch part = true ∧ (rest = [] ∨ rest = [newline]) := by
  rw [anchored, matchesAt_seq]
  constructor
  · intro ⟨_, inner, hpart, hstart, hinner⟩
    obtain ⟨_, rfl⟩ := matchesAt_start.mp hstart
    obtain ⟨body, _, rfl, hbody, hfinish⟩ := matchesAt_seq.mp hinner
    obtain ⟨rfl, hrest⟩ := matchesAt_finish.mp hfinish
    rw [matchesAt_of_anchorFree h] at hbody
    rw [List.nil_append, List.append_nil] at hpart
    rw [hpart]
    exact ⟨hbody, hrest⟩
  · intro ⟨hbody, hrest⟩
    refine ⟨[], part, rfl, matchesAt_start.mpr ⟨rfl, rfl⟩, matchesAt_seq.mpr ?_⟩
    refine ⟨part, [], (List.append_nil part).symm, ?_, matchesAt_finish.mpr ⟨rfl, hrest⟩⟩
    rw [matchesAt_of_anchorFree h]
    exact hbody

/-- `re.match` of `^...$`: a full match, with or without a newline after it. -/
theorem reMatch_anchored_iff {pattern : Pattern} (h : pattern.AnchorFree) {t : Text} :
    pattern.anchored.reMatch t = true ↔
      pattern.reFullmatch t = true ∨
        ∃ body, t = body ++ [newline] ∧ pattern.reFullmatch body = true := by
  rw [reMatch, anySplit_iff]
  constructor
  · intro ⟨body, rest, ht, hmatch⟩
    obtain ⟨hbody, hrest⟩ := (matchesAt_anchored h).mp hmatch
    cases hrest with
    | inl hnil =>
        left
        rw [ht, hnil, List.append_nil]
        exact hbody
    | inr hnewline =>
        right
        exact ⟨body, by rw [ht, hnewline], hbody⟩
  · intro hfull
    cases hfull with
    | inl hbody =>
        exact ⟨t, [], (List.append_nil t).symm, (matchesAt_anchored h).mpr ⟨hbody, .inl rfl⟩⟩
    | inr hbody =>
        obtain ⟨body, ht, hbody⟩ := hbody
        exact ⟨body, [newline], ht, (matchesAt_anchored h).mpr ⟨hbody, .inr rfl⟩⟩

end Pattern

end ResponseEngine.Foundation
