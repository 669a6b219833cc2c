import DiceCalculator.Proofs.Evaluation.Budget
import DiceCalculator.Session

/-!
# Calls of a session are independent

A call may leave the count wherever it stopped, but the next one begins it
anew before it evaluates anything. What a session has besides the roller, its
limits, no call changes. So a call answers as if the session were new, and the
calls before it are felt in the state of the roller only.
-/

namespace DiceCalculator

variable {σ : Type} [Roller σ]

namespace Context

/-- What becomes of a text in a context, without the records. -/
theorem result_rollText (context : Context σ) (text : String) :
    (context.rollText text).result =
      match Dice.tokenize text with
      | .error error => (.error (.lex error), context)
      | .ok tokens =>
        match (Dice.grammar.parse tokens).found with
        | none => (.error .cannotParse, context)
        | some found =>
          let run := (Dice.evaluate found.tree).runIn context.reset
          ((run.1.map (Outcome.mk tokens)).mapError .roll, run.2) := by
  rw [rollText, Logged.result_bind, Tokenizer.result_tokenizeLogged, Dice.tokenize]
  cases Dice.tokenizer.tokenize text with
  | error error => rfl
  | ok tokens =>
    simp only [Logged.result_bind, Dice.result_parseLogged]
    cases (Dice.grammar.parse tokens).found with
    | none => rfl
    | some found =>
      simp only [Logged.result_bind, Tree.result_evaluateLogged, Dice.evaluate]
      rcases (found.tree.evaluate Dice.Action.run).runIn context.reset with
        ⟨error | values, later⟩ <;> rfl

theorem limit_rollText (context : Context σ) (text : String) :
    (context.rollText text).result.2.limit = context.limit := by
  rw [result_rollText]
  split
  · rfl
  · split
    · rfl
    · rename_i found _
      exact ((RollM.CutsOff.evaluate 0 found.tree).advances context.reset).limit_eq

/-- The count of a context is of no account. -/
theorem rollText_congr {context other : Context σ} (same : context.reset = other.reset)
    (text : String) :
    (context.rollText text).result.1 = (other.rollText text).result.1 ∧
      (context.rollText text).result.2.roller = (other.rollText text).result.2.roller := by
  have roller_eq : context.reset.roller = other.reset.roller := by rw [same]
  rw [result_rollText, result_rollText, same]
  split
  · exact ⟨rfl, roller_eq⟩
  · split
    · exact ⟨rfl, roller_eq⟩
    · exact ⟨rfl, rfl⟩

/-- Recording the draws changes no result. -/
theorem rollText_recorded (context : Context σ) (text : String) :
    (context.recorded.rollText text).result.1 = (context.rollText text).result.1 := by
  rw [result_rollText, result_rollText]
  split
  · rfl
  · rename_i tokens _
    split
    · rfl
    · rename_i found _
      have same := Dice.runIn_unrecorded found.tree context.reset.recorded
      exact congrArg (fun run => (run.1.map (Outcome.mk tokens)).mapError DiceError.roll) same.symm

end Context

/-- A call of a session. -/
inductive Call where
  | roll (text : String)
  | answer (text : String)
  deriving DecidableEq, Repr

namespace Session

/-- The session after a call. -/
def after (session : Session σ) : Call → Session σ
  | .roll text => (session.roll text).result.2
  | .answer text => (session.answer text).result.2

/-- The session with its draws recorded from now on. -/
def recorded (session : Session σ) : Session (Recorded σ) :=
  ⟨session.config, session.context.recorded⟩

variable {session : Session σ} {text : String} {config : Config}

theorem result_roll_of_lt (long : session.config.maxInputLength < text.utf8ByteSize) :
    (session.roll text).result =
      (.error (.inputTooLong text.utf8ByteSize session.config.maxInputLength), session) := by
  rw [roll, if_pos long]
  rfl

theorem result_roll_of_le (fits : text.utf8ByteSize ≤ session.config.maxInputLength) :
    (session.roll text).result =
      ((session.context.rollText text).result.1,
        { session with context := (session.context.rollText text).result.2 }) := by
  rw [roll, if_neg (Nat.not_lt.2 fits)]
  rfl

theorem roll_recorded (session : Session σ) (text : String) :
    (session.recorded.roll text).result.1 = (session.roll text).result.1 := by
  by_cases fits : text.utf8ByteSize ≤ session.config.maxInputLength
  · rw [result_roll_of_le fits, ← Context.rollText_recorded]
    have fitsToo : text.utf8ByteSize ≤ session.recorded.config.maxInputLength := fits
    exact congrArg Prod.fst (result_roll_of_le fitsToo)
  · have long := Nat.not_le.1 fits
    rw [result_roll_of_lt long]
    have longToo : session.recorded.config.maxInputLength < text.utf8ByteSize := long
    exact congrArg Prod.fst (result_roll_of_lt longToo)

theorem session_answer (session : Session σ) (text : String) :
    (session.answer text).result.2 = (session.roll text).result.2 := by
  rw [answer, Logged.result_bind]
  rcases (session.roll text).result with ⟨error | outcome, later⟩ <;> rfl

/-- The session has these limits, and its context has the limit on rolls among them. -/
structure Keeps (config : Config) (session : Session σ) : Prop where
  config_eq : session.config = config
  limit_eq : session.context.limit = config.maxRolls

/-- The ways in which a call may end: the result and the session after it. -/
inductive Ends (config : Config) (session : Session σ) (text : String) :
    Except DiceError Outcome × Session σ → Prop where
  | tooLong (long : config.maxInputLength < text.utf8ByteSize) :
    Ends config session text
      (.error (.inputTooLong text.utf8ByteSize config.maxInputLength), session)
  | lex {error : LexError} (fits : text.utf8ByteSize ≤ config.maxInputLength)
      (stuck : Dice.tokenize text = .error error) :
    Ends config session text (.error (.lex error), session)
  | cannotParse {tokens : List Token} (fits : text.utf8ByteSize ≤ config.maxInputLength)
      (cut : Dice.tokenize text = .ok tokens)
      (unmatched : (Dice.grammar.parse tokens).found = none) :
    Ends config session text (.error .cannotParse, session)
  | rolled {tokens : List Token} {found : Match Dice.Action}
      (fits : text.utf8ByteSize ≤ config.maxInputLength)
      (cut : Dice.tokenize text = .ok tokens)
      (parsed : (Dice.grammar.parse tokens).found = some found)
      {outcome : Except RollError Values} {context : Context σ}
      (run : (Dice.evaluate found.tree).runIn (.fresh config.maxRolls session.context.roller) =
        (outcome, context)) :
    Ends config session text
      ((outcome.map (Outcome.mk tokens)).mapError .roll, { session with context })

namespace Keeps

omit [Roller σ] in
theorem start (config : Config) (roller : σ) : Keeps config (.start config roller) :=
  ⟨rfl, rfl⟩

theorem roll (keeps : Keeps config session) (text : String) :
    Keeps config (session.roll text).result.2 := by
  by_cases fits : text.utf8ByteSize ≤ session.config.maxInputLength
  · rw [result_roll_of_le fits]
    exact ⟨keeps.config_eq, (Context.limit_rollText ..).trans keeps.limit_eq⟩
  · rw [result_roll_of_lt (Nat.not_le.1 fits)]
    exact keeps

theorem after (keeps : Keeps config session) (call : Call) : Keeps config (session.after call) := by
  cases call with
  | roll text => exact keeps.roll text
  | answer text =>
    rw [Session.after, session_answer]
    exact keeps.roll text

theorem foldl_after (keeps : Keeps config session) (calls : List Call) :
    Keeps config (calls.foldl Session.after session) := by
  induction calls generalizing session with
  | nil => exact keeps
  | cons call rest inductionHypothesis => exact inductionHypothesis (keeps.after call)

omit [Roller σ] in
/-- Evaluation begins as in a new session. -/
theorem reset_eq (keeps : Keeps config session) :
    session.context.reset = .fresh config.maxRolls session.context.roller := by
  rw [← keeps.limit_eq]
  rfl

theorem roll_eq_anew (keeps : Keeps config session) (text : String) :
    let anew := ((Session.start config session.context.roller).roll text).result
    (session.roll text).result.1 = anew.1 ∧
      (session.roll text).result.2.context.roller = anew.2.context.roller := by
  intro anew
  by_cases fits : text.utf8ByteSize ≤ config.maxInputLength
  · have anew_eq : anew = _ := result_roll_of_le fits
    rw [← keeps.config_eq] at fits
    rw [anew_eq, result_roll_of_le fits]
    exact Context.rollText_congr keeps.reset_eq text
  · have anew_eq : anew = _ := result_roll_of_lt (Nat.not_le.1 fits)
    rw [← keeps.config_eq] at fits
    rw [anew_eq, result_roll_of_lt (Nat.not_le.1 fits), keeps.config_eq]
    exact ⟨rfl, rfl⟩

theorem ends (keeps : Keeps config session) (text : String) :
    Ends config session text (session.roll text).result := by
  by_cases fits : text.utf8ByteSize ≤ config.maxInputLength
  · have fitsHere := fits
    rw [← keeps.config_eq] at fitsHere
    rw [result_roll_of_le fitsHere, Context.result_rollText]
    cases cut : Dice.tokenize text with
    | error error => exact .lex fits cut
    | ok tokens =>
      cases parsed : (Dice.grammar.parse tokens).found with
      | none =>
        simp only [parsed]
        exact .cannotParse fits cut parsed
      | some found =>
        simp only [parsed]
        exact .rolled fits cut parsed (congrArg _ keeps.reset_eq.symm)
  · have long := Nat.not_le.1 fits
    rw [result_roll_of_lt (keeps.config_eq ▸ long), keeps.config_eq]
    exact .tooLong long

end Keeps

namespace Ends

variable {ending : Except DiceError Outcome × Session σ}

omit [Roller σ] in
/-- An outcome of evaluation is no reason to refuse the text. -/
theorem rolled_ne (outcome : Except RollError Values) (tokens : List Token) {error : DiceError}
    (early : ∀ cause, error ≠ .roll cause) :
    (outcome.map (Outcome.mk tokens)).mapError .roll ≠ .error error := by
  cases outcome with
  | error cause => exact fun same => early cause (Except.error.inj same).symm
  | ok values =>
    intro same
    cases same

theorem inputTooLong_iff (ends : Ends config session text ending) (length limit : Nat) :
    ending.1 = .error (.inputTooLong length limit) ↔
      config.maxInputLength < text.utf8ByteSize ∧
        length = text.utf8ByteSize ∧ limit = config.maxInputLength := by
  cases ends with
  | tooLong long => simp [long, eq_comm]
  | lex fits => simp [Nat.not_lt.2 fits]
  | cannotParse fits => simp [Nat.not_lt.2 fits]
  | rolled fits => simp [Nat.not_lt.2 fits, rolled_ne]

theorem lex_iff (ends : Ends config session text ending) (error : LexError) :
    ending.1 = .error (.lex error) ↔
      text.utf8ByteSize ≤ config.maxInputLength ∧ Dice.tokenize text = .error error := by
  cases ends with
  | tooLong long => simp [Nat.not_le.2 long]
  | lex fits stuck => simp [fits, stuck]
  | cannotParse fits cut => simp [cut]
  | rolled fits cut => simp [cut, rolled_ne]

theorem cannotParse_iff (ends : Ends config session text ending) :
    ending.1 = .error .cannotParse ↔
      text.utf8ByteSize ≤ config.maxInputLength ∧
        ∃ tokens, Dice.tokenize text = .ok tokens ∧ (Dice.grammar.parse tokens).found = none := by
  cases ends with
  | tooLong long => simp [Nat.not_le.2 long]
  | lex fits stuck => simp [stuck]
  | cannotParse fits cut unmatched => simp [fits, cut, unmatched]
  | rolled fits cut parsed => simp [cut, parsed, rolled_ne]

theorem rolled_of_some (ends : Ends config session text ending) {tokens : List Token}
    {found : Match Dice.Action} (fits : text.utf8ByteSize ≤ config.maxInputLength)
    (cut : Dice.tokenize text = .ok tokens)
    (parsed : (Dice.grammar.parse tokens).found = some found) :
    let run := (Dice.evaluate found.tree).runIn (.fresh config.maxRolls session.context.roller)
    ending.1 = (run.1.map (Outcome.mk tokens)).mapError .roll ∧ ending.2.context = run.2 := by
  cases ends with
  | tooLong long => exact absurd fits (Nat.not_le.2 long)
  | lex _ stuck => cases cut.symm.trans stuck
  | cannotParse _ cutToo unmatched =>
    cases cut.symm.trans cutToo
    cases parsed.symm.trans unmatched
  | rolled _ cutToo parsedToo run =>
    cases cut.symm.trans cutToo
    cases parsed.symm.trans parsedToo
    rw [run]
    exact ⟨rfl, rfl⟩

/-- A text that is refused before it is evaluated leaves the session as it is. -/
theorem session_eq (ends : Ends config session text ending) {error : DiceError}
    (refused : ending.1 = .error error) (early : ∀ cause, error ≠ .roll cause) :
    ending.2 = session := by
  cases ends with
  | tooLong | lex | cannotParse => rfl
  | rolled => exact absurd refused (rolled_ne _ _ early)

end Ends

/-- Whatever calls came before, a session answers a text as a new session would with the roller in
its present state. A text that is too long, has no tokens or matches nothing is refused for the first
of these reasons, and then the session stays as it is and draws no face. Any other comes to what its
match is evaluated to, with the count at zero. -/
theorem roll_independent (config : Config) (roller : σ) (calls : List Call) (text : String) :
    let session := calls.foldl after (start config roller)
    let result := (session.roll text).result.1
    let later := (session.roll text).result.2
    let anew := ((start config session.context.roller).roll text).result
    (result = anew.1 ∧ later.context.roller = anew.2.context.roller) ∧
    (∀ length limit, result = .error (.inputTooLong length limit) ↔
      config.maxInputLength < text.utf8ByteSize ∧
        length = text.utf8ByteSize ∧ limit = config.maxInputLength) ∧
    (∀ error, result = .error (.lex error) ↔
      text.utf8ByteSize ≤ config.maxInputLength ∧ Dice.tokenize text = .error error) ∧
    (result = .error .cannotParse ↔
      text.utf8ByteSize ≤ config.maxInputLength ∧
        ∃ tokens, Dice.tokenize text = .ok tokens ∧ (Dice.grammar.parse tokens).found = none) ∧
    (∀ tokens found, text.utf8ByteSize ≤ config.maxInputLength → Dice.tokenize text = .ok tokens →
      (Dice.grammar.parse tokens).found = some found →
      let run := (Dice.evaluate found.tree).runIn (.fresh config.maxRolls session.context.roller)
      result = (run.1.map (Outcome.mk tokens)).mapError .roll ∧ later.context = run.2) ∧
    ∀ error, result = .error error → (∀ cause, error ≠ .roll cause) →
      later = session ∧ (session.recorded.roll text).result.2.context.roller.draws = [] := by
  intro session result later anew
  have keeps : Keeps config session := (Keeps.start config roller).foldl_after calls
  have ends : Ends config session text (result, later) := keeps.ends text
  refine ⟨keeps.roll_eq_anew text, ends.inputTooLong_iff, ends.lex_iff, ends.cannotParse_iff,
    ?_, ?_⟩
  · intro tokens found fits cut parsed
    exact ends.rolled_of_some fits cut parsed
  · intro error refused early
    refine ⟨ends.session_eq refused early, ?_⟩
    have keepsToo : Keeps config session.recorded := ⟨keeps.config_eq, keeps.limit_eq⟩
    have refusedToo := (roll_recorded session text).trans refused
    rw [(keepsToo.ends text).session_eq refusedToo early]
    rfl

/-- A text that is too long and has no tokens either is refused for its length. -/
theorem roll_independent_too_long :
    let config : Config := { maxInputLength := 5, maxRolls := some 1 }
    let session := [Call.roll "2 d6", .answer "("].foldl after (start config ({} : Highest))
    (session.roll "d6 + !").result.1 = .error (.inputTooLong 6 5) := by
  intro config session
  have whole := roll_independent config ({} : Highest) [.roll "2 d6", .answer "("] "d6 + !"
  exact (whole.2.1 6 5).2 (by decide)

end Session

end DiceCalculator
