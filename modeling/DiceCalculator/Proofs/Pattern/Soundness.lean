import DiceCalculator.Proofs.Pattern.Words

/-!
# What a search finds

A match that the search finds is a way through the pattern. The forks that it
has tried only make it give up ways, so they do not matter here, and neither
does the order in which ways are tried.
-/

namespace DiceCalculator.Pattern

variable {spans : Cursor → Cursor → Prop} {address : Address} {greedy : Bool} {goal : Goal}
  {here : Cursor} {seen : Seen} {stop : Nat} {body : Pattern}

/-- The goal is attained at the end of a way from the place. -/
def Attains (spans : Cursor → Cursor → Prop) (goal : Goal) (here : Cursor) (stop : Nat) : Prop :=
  ∃ there seen, spans here there ∧ (goal there seen).1 = some stop

/-- All that the pattern takes before a goal are ways through it. -/
def Sound (pattern : Pattern) : Prop :=
  ∀ address goal here seen stop, (pattern.run address goal here seen).1 = some stop →
    Attains pattern.Spans goal here stop

theorem Attains.trans {further : Goal} {others both : Cursor → Cursor → Prop}
    (attains : Attains spans further here stop)
    (next : ∀ there seen, (further there seen).1 = some stop → Attains others goal there stop)
    (append : ∀ {here middle there}, spans here middle → others middle there → both here there) :
    Attains both goal here stop := by
  obtain ⟨middle, seenMiddle, before, run⟩ := attains
  obtain ⟨there, seenThere, after, attained⟩ := next middle seenMiddle run
  exact ⟨there, seenThere, append before after, attained⟩

theorem Attains.mono {wider : Cursor → Cursor → Prop} (attains : Attains spans goal here stop)
    (each : ∀ {there}, spans here there → wider here there) : Attains wider goal here stop := by
  obtain ⟨there, seenThere, leads, attained⟩ := attains
  exact ⟨there, seenThere, each leads, attained⟩

theorem exists_of_character {test : Char → Prop} [DecidablePred test]
    (run : ((match here.left with
      | [] => Search.fail
      | c :: rest => if test c then goal (here.advance c rest) else Search.fail) seen).1 =
        some stop) :
    ∃ c rest, here.left = c :: rest ∧ test c ∧ (goal (here.advance c rest) seen).1 = some stop := by
  cases left : here.left with
  | nil => simp [left, Search.fail] at run
  | cons c rest =>
    rw [left] at run
    by_cases passes : test c
    · exact ⟨c, rest, rfl, passes, by simpa only [passes, ↓reduceIte] using run⟩
    · simp [passes, Search.fail] at run

theorem exists_of_inOrder {first second : Goal}
    (run : (inOrder address first second here seen).1 = some stop) :
    ∃ seen, (first here seen).1 = some stop ∨ (second here seen).1 = some stop := by
  by_cases tried : (here.passed, address) ∈ seen
  · rw [inOrder_of_mem tried] at run
    cases run
  · rw [inOrder_of_not_mem tried] at run
    cases firstRun : first here (seen.insert (here.passed, address)) with
    | mk outcome seenLater =>
      rw [firstRun] at run
      cases outcome with
      | some found => exact ⟨_, .inl ((congrArg Prod.fst firstRun).trans run)⟩
      | none => exact ⟨_, .inr run⟩

theorem exists_of_fork {longer shorter : Goal}
    (run : (fork address greedy longer shorter here seen).1 = some stop) :
    ∃ seen, (longer here seen).1 = some stop ∨ (shorter here seen).1 = some stop := by
  unfold fork at run
  cases greedy with
  | true => exact exists_of_inOrder run
  | false =>
    obtain ⟨seenLater, found⟩ := exists_of_inOrder run
    exact ⟨seenLater, found.symm⟩

namespace Sound

theorem attains_upTo (sound : Sound body) {inner : Nat → Address} {first n : Nat}
    (run : (upTo (fun i => body.run (inner i)) address greedy first n goal here seen).1 =
      some stop) : Attains (Spans (.many 0 (some n) greedy body)) goal here stop := by
  induction n generalizing first here seen with
  | zero => exact ⟨here, seen, .enough, run⟩
  | succ n inductionHypothesis =>
    obtain ⟨seenLater, again | done⟩ := exists_of_fork run
    · exact (sound _ _ _ _ _ again).trans (fun _ _ => inductionHypothesis)
        fun round others => .round (.inr (by simp)) round others
    · exact ⟨here, seenLater, .enough, done⟩

theorem attains_further (sound : Sound body) {inner : Address} {n : Nat}
    (run : (further (body.run inner) address greedy goal n here seen).1 = some stop) :
    Attains (Spans (.many 0 none greedy body)) goal here stop := by
  induction n generalizing here seen with
  | zero => cases run
  | succ n inductionHypothesis =>
    obtain ⟨seenLater, again | done⟩ := exists_of_fork run
    · exact (sound _ _ _ _ _ again).trans (fun _ _ => inductionHypothesis)
        fun round others => .round (.inr (by simp)) round others
    · exact ⟨here, seenLater, .enough, done⟩

theorem attains_rounds (sound : Sound body) {inner : Address}
    (run : (rounds (body.run inner) address greedy goal here seen).1 = some stop) :
    Attains (Spans (.many 1 none greedy body)) goal here stop :=
  (sound _ _ _ _ _ run).trans (fun _ _ => sound.attains_further)
    fun round others => .round (.inr (by simp)) round others

/-- The rounds that must be there come before what a repetition without them attains. -/
theorem attains_copies (sound : Sound body) {inner : Nat → Address} {first n least : Nat}
    {most : Option Nat} {rest : Goal}
    (others : ∀ here seen, (rest here seen).1 = some stop →
      Attains (Spans (.many least (most.map (· - n)) greedy body)) goal here stop)
    (run : (copies (fun i => body.run (inner i)) first n rest here seen).1 = some stop) :
    Attains (Spans (.many (least + n) most greedy body)) goal here stop := by
  induction n generalizing first most here seen with
  | zero => simpa using others here seen run
  | succ n inductionHypothesis =>
    refine (sound _ _ _ _ _ run).trans (fun _ _ => inductionHypothesis ?_)
      (.round (.inl (Nat.succ_pos _)))
    simpa [Nat.sub_add_eq, Nat.sub_right_comm, Function.comp_def] using others

theorem many (sound : Sound body) (least : Nat) (most : Option Nat) :
    Sound (.many least most greedy body) := by
  intro address goal here seen stop run
  match least, most with
  | least, some most =>
    rw [Pattern.run] at run
    have ways : Attains (Spans (.many (0 + least) (some most) greedy body)) goal here stop :=
      sound.attains_copies (fun _ _ => sound.attains_upTo) run
    rwa [Nat.zero_add] at ways
  | least + 1, none =>
    rw [Pattern.run] at run
    have ways : Attains (Spans (.many (1 + least) none greedy body)) goal here stop :=
      sound.attains_copies (fun _ _ => sound.attains_rounds) run
    rwa [Nat.add_comm] at ways
  | 0, none =>
    rw [Pattern.run] at run
    -- a body that can be empty has a fork of its own before the first round
    split at run
    · obtain ⟨seenLater, again | done⟩ := exists_of_fork run
      · refine (sound.attains_rounds again).mono fun ways => ?_
        cases ways with
        | round _ round others => exact .round (.inr (by simp)) round others
      · exact ⟨here, seenLater, .enough, done⟩
    · exact sound.attains_further run

end Sound

/-- The search is sound, whatever the pattern. -/
theorem sound (pattern : Pattern) : pattern.Sound := by
  induction pattern with
  | empty => exact fun _ _ here seen _ run => ⟨here, seen, .empty, run⟩
  | assert condition =>
    intro address goal here seen stop run
    rw [Pattern.run] at run
    split at run
    · exact ⟨here, seen, .assert ‹_›, run⟩
    · cases run
  | char d =>
    intro address goal here seen stop run
    obtain ⟨c, rest, left, rfl, attained⟩ := exists_of_character run
    exact ⟨_, seen, .char left, attained⟩
  | any =>
    intro address goal here seen stop run
    obtain ⟨c, rest, left, inLine, attained⟩ := exists_of_character run
    exact ⟨_, seen, .any left inLine, attained⟩
  | one set =>
    intro address goal here seen stop run
    obtain ⟨c, rest, left, inside, attained⟩ := exists_of_character run
    exact ⟨_, seen, .one left inside, attained⟩
  | seq first second soundFirst soundSecond =>
    intro address goal here seen stop run
    exact (soundFirst _ _ _ _ _ run).trans (fun _ _ => soundSecond _ _ _ _ _) .seq
  | alt first second soundFirst soundSecond =>
    intro address goal here seen stop run
    obtain ⟨seenLater, taken | taken⟩ := exists_of_inOrder run
    · exact (soundFirst _ _ _ _ _ taken).mono .altFirst
    · exact (soundSecond _ _ _ _ _ taken).mono .altSecond
  | group numbered body sound =>
    exact fun _ _ _ _ _ run => (sound _ _ _ _ _ run).mono .group
  | many least most greedy body sound => exact sound.many least most

end DiceCalculator.Pattern
