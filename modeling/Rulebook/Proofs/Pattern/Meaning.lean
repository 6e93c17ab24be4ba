/-
This file says what a pattern matches, and shows that the code made of it takes nothing else. A
match leads from one place in the text to another. It is no more than the expression asks for:
which of several matches is preferred is left open.

The code of an expression is a piece that is appended to other code, and that is left only for the
address that was given. A way through the code that accepts comes out of the piece in time, so it
can be cut there, and what it took before that is a match of the expression. Loops come back to
their own addresses; each time, there is less of the way left.
-/

import Mathlib.Logic.Relation
import Rulebook.Pattern.Program

namespace Rulebook.Pattern

/-! ### What expressions match -/

/-- A place in a text: the character before it and what comes after it. -/
structure Spot where
  before : Option Char
  rest : List Char

/-- A relation between places, a number of times. -/
def Rounds (means : Spot → Spot → Prop) : Nat → Spot → Spot → Prop
  | 0, start, stop => stop = start
  | count + 1, start, stop => ∃ middle, means start middle ∧ Rounds means count middle stop

/-- The expression matches from one place to another. A repetition runs its least number of rounds
and then as many more as there may be up to the most. -/
def Expr.Matches : Expr → Spot → Spot → Prop
  | .empty, start, stop => stop = start
  | .set chars, start, stop =>
    ∃ c rest, start.rest = c :: rest ∧ chars.contains c = true ∧ stop = ⟨some c, rest⟩
  | .look condition, start, stop =>
    condition.holds start.before start.rest.head? = true ∧ stop = start
  | .group _ body, start, stop => body.Matches start stop
  | .both first second, start, stop =>
    ∃ middle, first.Matches start middle ∧ second.Matches middle stop
  | .either first second, start, stop => first.Matches start stop ∨ second.Matches start stop
  | .loop least most _ body, start, stop => ∃ more,
    (∀ bound, most = some bound → more ≤ bound - least) ∧
      Rounds body.Matches (least + more) start stop

section

variable {means : Spot → Spot → Prop} {start middle stop : Spot} {count more : Nat}

theorem Rounds.append (first : Rounds means count start middle)
    (second : Rounds means more middle stop) : Rounds means (count + more) start stop := by
  induction count generalizing start with
  | zero =>
    cases first
    rwa [Nat.zero_add]
  | succ count inductionHypothesis =>
    obtain ⟨next, one, others⟩ := first
    rw [Nat.add_right_comm]
    exact ⟨next, one, inductionHypothesis others⟩

theorem rounds_one (one : means start stop) : Rounds means 1 start stop :=
  ⟨stop, one, rfl⟩

end

/-! ### Ways through code -/

namespace Code

/-- One instruction leads from an address and a place to another address and another place. -/
inductive Step (code : Code) : Nat × Spot → Nat × Spot → Prop
  | take {address next : Nat} {set : CharSet} {before : Option Char} {c : Char}
      {rest : List Char} (found : code[address]? = some (.take set next))
      (member : set.contains c = true) :
      Step code (address, ⟨before, c :: rest⟩) (next, ⟨some c, rest⟩)
  | require {address next : Nat} {condition : Look} {spot : Spot}
      (found : code[address]? = some (.require condition next))
      (holds : condition.holds spot.before spot.rest.head? = true) :
      Step code (address, spot) (next, spot)
  | first {address left right : Nat} {spot : Spot}
      (found : code[address]? = some (.branch left right)) : Step code (address, spot) (left, spot)
  | second {address left right : Nat} {spot : Spot}
      (found : code[address]? = some (.branch left right)) : Step code (address, spot) (right, spot)

/-- A way of some length ends where the code accepts, at a certain place. -/
inductive Accepts (code : Code) : Nat → Nat × Spot → Spot → Prop
  | here {address : Nat} {spot : Spot} (found : code[address]? = some .accept) :
      Accepts code 0 (address, spot) spot
  | further {steps : Nat} {point next : Nat × Spot} {stop : Spot} (step : Step code point next)
      (accepts : Accepts code steps next stop) : Accepts code (steps + 1) point stop

variable {whole code code' : Code} {steps address next : Nat} {start stop : Spot}
  {means : Spot → Spot → Prop} {piece piece' : Nat → Code → Nat × Code}

/-- A way that meets an instruction which does not accept goes on. -/
theorem Accepts.step_of_ne (accepts : Accepts code steps (address, start) stop)
    (goesOn : code[address]? ≠ some .accept) :
    ∃ point fewer, fewer < steps ∧ Step code (address, start) point ∧
      Accepts code fewer point stop := by
  cases accepts with
  | here found => exact absurd found goesOn
  | further step accepts => exact ⟨_, _, Nat.lt_succ_self _, step, accepts⟩

/-- Where the code accepts, a way has come to its end. -/
theorem Accepts.eq_of_accept (accepts : Accepts code steps (address, start) stop)
    (found : code[address]? = some .accept) : stop = start := by
  cases accepts with
  | here => rfl
  | further step =>
    cases step with
    | take other | require other | first other | second other =>
      rw [found] at other
      cases other

/-- A way that meets a branch goes on in one of two ways. -/
theorem Accepts.of_branch {left right : Nat} (accepts : Accepts code steps (address, start) stop)
    (found : code[address]? = some (.branch left right)) :
    ∃ fewer < steps, Accepts code fewer (left, start) stop ∨
      Accepts code fewer (right, start) stop := by
  obtain ⟨point, fewer, lt, step, rest⟩ := accepts.step_of_ne (by rw [found]; exact nofun)
  cases step with
  | take other | require other =>
    rw [found] at other
    cases other
  | first other =>
    rw [found] at other
    cases other
    exact ⟨fewer, lt, .inl rest⟩
  | second other =>
    rw [found] at other
    cases other
    exact ⟨fewer, lt, .inr rest⟩

/-- At a loop it goes through another round or leaves, whichever is preferred. -/
theorem Accepts.of_choice {greedy : Bool} {round out : Nat}
    (accepts : Accepts code steps (address, start) stop)
    (found : code[address]? = some (choice greedy round out)) :
    ∃ fewer < steps, Accepts code fewer (round, start) stop ∨
      Accepts code fewer (out, start) stop := by
  cases greedy with
  | true => exact accepts.of_branch found
  | false =>
    obtain ⟨fewer, lt, rest⟩ := accepts.of_branch found
    exact ⟨fewer, lt, rest.symm⟩

theorem accepts_of_reaches {point point' : Nat × Spot}
    (reaches : Relation.ReflTransGen (Step code) point point')
    (accepts : Accepts code steps point' stop) : ∃ more, Accepts code more point stop := by
  induction reaches using Relation.ReflTransGen.head_induction_on with
  | refl => exact ⟨steps, accepts⟩
  | head step _ inductionHypothesis =>
    obtain ⟨more, accepts⟩ := inductionHypothesis
    exact ⟨more + 1, .further step accepts⟩

/-! ### Pieces -/

/-- Some code has the instructions that were appended to other code. -/
def Holds (whole code code' : Code) : Prop :=
  ∀ address, code.size ≤ address → address < code'.size → whole[address]? = code'[address]?

/-- Code is only appended to. -/
structure Extends (code code' : Code) : Prop where
  size_le : code.size ≤ code'.size
  kept : ∀ address < code.size, code'[address]? = code[address]?

/-- A way can be cut where it comes to an address. What it took before is meant. -/
def Passes (whole : Code) (means : Spot → Spot → Prop) (entry out : Nat) : Prop :=
  ∀ steps start stop, Accepts whole steps (entry, start) stop →
    ∃ middle fewer, fewer ≤ steps ∧ means start middle ∧ Accepts whole fewer (out, middle) stop

/-- A piece is appended to what is there, and what a way takes in it is meant. -/
structure Lays (piece : Nat → Code → Nat × Code) (means : Spot → Spot → Prop) : Prop where
  extends_code : ∀ next code, Extends code (piece next code).2
  passes : ∀ next code whole, Holds whole code (piece next code).2 →
    Passes whole means (piece next code).1 next

theorem Extends.refl (code : Code) : Extends code code :=
  ⟨Nat.le_refl _, fun _ _ => rfl⟩

theorem Extends.trans {code'' : Code} (first : Extends code code') (second : Extends code' code'') :
    Extends code code'' where
  size_le := Nat.le_trans first.size_le second.size_le
  kept address inside := by
    rw [second.kept address (Nat.lt_of_lt_of_le inside first.size_le), first.kept address inside]

theorem extends_push (code : Code) (instruction : Instruction) :
    Extends code (code.push instruction) where
  size_le := by
    rw [Array.size_push]
    exact Nat.le_succ _
  kept address inside := by rw [Array.getElem?_push, if_neg (Nat.ne_of_lt inside)]

/-- What is filled in at a reserved address is not noticed before it. -/
theorem Extends.fill {instruction instruction' : Instruction}
    (extension : Extends (code.push instruction) code') :
    Extends code (code'.setIfInBounds code.size instruction') where
  size_le := by
    rw [Array.size_setIfInBounds]
    exact ((extends_push code instruction).trans extension).size_le
  kept address inside := by
    rw [Array.getElem?_setIfInBounds_ne (Nat.ne_of_gt inside)]
    exact ((extends_push code instruction).trans extension).kept address inside

theorem Holds.left {code'' : Code} (holds : Holds whole code code'')
    (extension : Extends code' code'') : Holds whole code code' :=
  fun address above inside => (holds address above
    (Nat.lt_of_lt_of_le inside extension.size_le)).trans (extension.kept address inside)

theorem Holds.right {code'' : Code} (holds : Holds whole code code'')
    (extension : Extends code code') : Holds whole code' code'' :=
  fun address above inside => holds address (Nat.le_trans extension.size_le above) inside

/-- An instruction that was appended is there. -/
theorem Holds.pushed {instruction : Instruction}
    (holds : Holds whole code (code.push instruction)) : whole[code.size]? = some instruction := by
  rw [holds code.size (Nat.le_refl _) (by rw [Array.size_push]; exact Nat.lt_succ_self _),
    Array.getElem?_push, if_pos rfl]

/-- So is an instruction that was filled in, and what came behind it. -/
theorem Holds.filled {instruction instruction' : Instruction}
    (extension : Extends (code.push instruction) code')
    (holds : Holds whole code (code'.setIfInBounds code.size instruction')) :
    whole[code.size]? = some instruction' ∧ Holds whole (code.push instruction) code' := by
  have inside : code.size < code'.size :=
    Nat.lt_of_lt_of_le (by rw [Array.size_push]; exact Nat.lt_succ_self _) extension.size_le
  refine ⟨?_, fun address above below => ?_⟩
  · rw [holds code.size (Nat.le_refl _) (by rw [Array.size_setIfInBounds]; exact inside),
      Array.getElem?_setIfInBounds_self_of_lt inside]
  · rw [Array.size_push] at above
    rw [holds address (Nat.le_of_succ_le above) (by rw [Array.size_setIfInBounds]; exact below),
      Array.getElem?_setIfInBounds_ne (Nat.ne_of_lt above)]

theorem Passes.refl (whole : Code) (address : Nat) :
    Passes whole (fun start stop => stop = start) address address :=
  fun steps start _ accepts => ⟨start, steps, Nat.le_refl _, rfl, accepts⟩

theorem Passes.mono {wider : Spot → Spot → Prop} {entry out : Nat}
    (passes : Passes whole means entry out)
    (implies : ∀ start stop, means start stop → wider start stop) :
    Passes whole wider entry out := by
  intro steps start stop accepts
  obtain ⟨middle, fewer, le, meant, rest⟩ := passes steps start stop accepts
  exact ⟨middle, fewer, le, implies _ _ meant, rest⟩

theorem Passes.trans {further : Spot → Spot → Prop} {entry middle out : Nat}
    (first : Passes whole means entry middle) (second : Passes whole further middle out) :
    Passes whole (fun start stop => ∃ between, means start between ∧ further between stop)
      entry out := by
  intro steps start stop accepts
  obtain ⟨between, fewer, le, meant, rest⟩ := first steps start stop accepts
  obtain ⟨last, least, le', meant', rest⟩ := second fewer between stop rest
  exact ⟨last, least, Nat.le_trans le' le, ⟨between, meant, meant'⟩, rest⟩

/-- Where a way goes on in one of two ways, it takes what one of them takes. -/
theorem passes_either {left right out : Nat} {other : Spot → Spot → Prop}
    (goes : ∀ steps start stop, Accepts whole steps (address, start) stop → ∃ fewer < steps,
      Accepts whole fewer (left, start) stop ∨ Accepts whole fewer (right, start) stop)
    (first : Passes whole means left out) (second : Passes whole other right out) :
    Passes whole (fun start stop => means start stop ∨ other start stop) address out := by
  intro steps start stop accepts
  obtain ⟨fewer, lt, rest | rest⟩ := goes steps start stop accepts
  · obtain ⟨middle, least, le, meant, rest⟩ := first fewer start stop rest
    exact ⟨middle, least, Nat.le_trans le (Nat.le_of_lt lt), .inl meant, rest⟩
  · obtain ⟨middle, least, le, meant, rest⟩ := second fewer start stop rest
    exact ⟨middle, least, Nat.le_trans le (Nat.le_of_lt lt), .inr meant, rest⟩

theorem passes_take {set : CharSet} (found : whole[address]? = some (.take set next)) :
    Passes whole (Expr.set set).Matches address next := by
  intro steps start stop accepts
  obtain ⟨point, fewer, lt, step, rest⟩ := accepts.step_of_ne (by rw [found]; exact nofun)
  cases step with
  | take other member =>
    rw [found] at other
    cases other
    exact ⟨_, fewer, Nat.le_of_lt lt, ⟨_, _, rfl, member, rfl⟩, rest⟩
  | require other | first other | second other =>
    rw [found] at other
    cases other

theorem passes_require {condition : Look}
    (found : whole[address]? = some (.require condition next)) :
    Passes whole (Expr.look condition).Matches address next := by
  intro steps start stop accepts
  obtain ⟨point, fewer, lt, step, rest⟩ := accepts.step_of_ne (by rw [found]; exact nofun)
  cases step with
  | require other holds =>
    rw [found] at other
    cases other
    exact ⟨start, fewer, Nat.le_of_lt lt, ⟨holds, rfl⟩, rest⟩
  | take other | first other | second other =>
    rw [found] at other
    cases other

/-- A loop runs a number of rounds. Each comes back to the loop with less of the way left. -/
theorem passes_loop {greedy : Bool} {loop round out : Nat}
    (found : whole[loop]? = some (choice greedy round out))
    (body : Passes whole means round loop) :
    Passes whole (fun start stop => ∃ count, Rounds means count start stop) loop out := by
  intro steps
  induction steps using Nat.strongRecOn with
  | ind steps inductionHypothesis =>
    intro start stop accepts
    obtain ⟨fewer, lt, rest | rest⟩ := accepts.of_choice found
    · obtain ⟨between, less, le, meant, rest⟩ := body fewer start stop rest
      have shorter := Nat.lt_of_le_of_lt le lt
      obtain ⟨middle, least, le', ⟨count, rounds⟩, rest⟩ :=
        inductionHypothesis less shorter between stop rest
      exact ⟨middle, least, Nat.le_trans le' (Nat.le_of_lt shorter),
        ⟨count + 1, between, meant, rounds⟩, rest⟩
    · exact ⟨start, fewer, Nat.le_of_lt lt, ⟨0, rfl⟩, rest⟩

/-! ### Pieces put together -/

theorem extends_optionally (lays : Lays piece means) (greedy : Bool) (out count next : Nat)
    (code : Code) : Extends code (optionally greedy out piece count next code).2 := by
  induction count generalizing next code with
  | zero => exact .refl code
  | succ count inductionHypothesis =>
    exact ((lays.extends_code next code).trans (extends_push _ _)).trans (inductionHypothesis _ _)

/-- Optional rounds are as many as there may be at most, or fewer. -/
theorem passes_optionally (lays : Lays piece means) {greedy : Bool} {out : Nat}
    (count next : Nat) (code : Code)
    (holds : Holds whole code (optionally greedy out piece count next code).2) :
    ∀ steps start stop,
      Accepts whole steps ((optionally greedy out piece count next code).1, start) stop →
        ∃ more ≤ count, ∃ middle, ∃ fewer ≤ steps, Rounds means more start middle ∧
          (Accepts whole fewer (next, middle) stop ∨ Accepts whole fewer (out, middle) stop) := by
  induction count generalizing next code with
  | zero =>
    exact fun steps start _ accepts =>
      ⟨0, Nat.le_refl _, start, steps, Nat.le_refl _, rfl, .inl accepts⟩
  | succ count inductionHypothesis =>
    intro steps start stop accepts
    have laid := lays.extends_code next code
    have pushed := extends_push (piece next code).2 (choice greedy (piece next code).1 out)
    have others := extends_optionally lays greedy out count (piece next code).2.size
      ((piece next code).2.push (choice greedy (piece next code).1 out))
    have found := ((holds.right laid).left others).pushed
    have body := lays.passes next code whole ((holds.left others).left pushed)
    obtain ⟨more, le, middle, fewer, le', rounds, left | left⟩ :=
      inductionHypothesis _ _ (holds.right (laid.trans pushed)) steps start stop accepts
    · -- The way stands at the choice of the last round.
      obtain ⟨less, lt, left | left⟩ := left.of_choice found
      · obtain ⟨behind, least, le'', meant, left⟩ := body less middle stop left
        exact ⟨more + 1, Nat.succ_le_succ le, behind, least,
          Nat.le_trans le'' (Nat.le_trans (Nat.le_of_lt lt) le'),
          rounds.append (rounds_one meant), .inl left⟩
      · exact ⟨more, Nat.le_succ_of_le le, middle, less,
          Nat.le_trans (Nat.le_of_lt lt) le', rounds, .inr left⟩
    · exact ⟨more, Nat.le_succ_of_le le, middle, fewer, le', rounds, .inr left⟩

/-- Optional rounds that lead to the same place as the way out. -/
theorem Lays.optionally (lays : Lays piece means) (greedy : Bool) (count : Nat) :
    Lays (fun next code => Code.optionally greedy next piece count next code)
      fun start stop => ∃ more ≤ count, Rounds means more start stop where
  extends_code next code := extends_optionally lays greedy next count next code
  passes next code whole holds := by
    intro steps start stop accepts
    obtain ⟨more, le, middle, fewer, le', rounds, rest⟩ :=
      passes_optionally lays count next code holds steps start stop accepts
    exact ⟨middle, fewer, le', ⟨more, le, rounds⟩, rest.elim id id⟩

/-- One piece before another. -/
theorem Lays.then {further : Spot → Spot → Prop} (first : Lays piece means)
    (second : Lays piece' further) :
    Lays (fun next code => piece (piece' next code).1 (piece' next code).2)
      fun start stop => ∃ middle, means start middle ∧ further middle stop where
  extends_code next code := (second.extends_code next code).trans (first.extends_code _ _)
  passes next code whole holds :=
    (first.passes _ _ whole (holds.right (second.extends_code next code))).trans
      (second.passes next code whole (holds.left (first.extends_code _ _)))

/-- A piece a number of times. -/
theorem Lays.times (lays : Lays piece means) (count : Nat) :
    Lays (Code.times piece count) (Rounds means count) := by
  induction count with
  | zero => exact ⟨fun _ code => .refl code, fun next _ whole _ => .refl whole next⟩
  | succ count inductionHypothesis =>
    have last := inductionHypothesis.then lays
    refine ⟨last.extends_code, fun next code whole holds =>
      (last.passes next code whole holds).mono fun start stop => ?_⟩
    rintro ⟨middle, rounds, meant⟩
    exact rounds.append (rounds_one meant)

/-- A loop whose address is reserved before its body is there. -/
theorem Lays.loops (lays : Lays piece means) (greedy : Bool) (next : Nat) (code : Code) :
    Extends code (again greedy piece next code).2 ∧
      ∀ whole, Holds whole code (again greedy piece next code).2 →
        Passes whole means (again greedy piece next code).1 code.size ∧
          Passes whole (fun start stop => ∃ count, Rounds means count start stop) code.size
            next := by
  have body := lays.extends_code code.size (code.push .accept)
  refine ⟨body.fill, fun whole holds => ?_⟩
  obtain ⟨found, holds⟩ := holds.filled body
  have passes := lays.passes _ _ whole holds
  exact ⟨passes, passes_loop found passes⟩

/-- Rounds that end with a choice to go on: at least one. -/
theorem Lays.again (lays : Lays piece means) (greedy : Bool) :
    Lays (Code.again greedy piece) fun start stop =>
      ∃ more, Rounds means (more + 1) start stop where
  extends_code next code := (lays.loops greedy next code).1
  passes next code whole holds := by
    obtain ⟨body, loop⟩ := (lays.loops greedy next code).2 whole holds
    refine (body.trans loop).mono fun start stop => ?_
    rintro ⟨middle, meant, count, rounds⟩
    exact ⟨count, middle, meant, rounds⟩

/-- The same, if there may also be none. -/
theorem Lays.againOrNone (lays : Lays piece means) (greedy : Bool) :
    Lays (fun next code =>
        let (round, code) := Code.again greedy piece next code
        emit code (choice greedy round next))
      fun start stop => ∃ more, Rounds means more start stop where
  extends_code next code := ((lays.again greedy).extends_code next code).trans (extends_push _ _)
  passes next code whole holds := by
    have rounds := (lays.again greedy).passes next code whole (holds.left (extends_push _ _))
    have found := (holds.right ((lays.again greedy).extends_code next code)).pushed
    refine (passes_either (fun _ _ _ accepts => accepts.of_choice found) rounds
      (.refl whole next)).mono fun start stop => ?_
    rintro (⟨more, rounds⟩ | rfl)
    · exact ⟨more + 1, rounds⟩
    · exact ⟨0, rfl⟩

/-- Rounds that begin with a choice to go on. -/
theorem Lays.loop (lays : Lays piece means) (greedy : Bool) :
    Lays (fun next code => (code.size, (Code.again greedy piece next code).2))
      fun start stop => ∃ more, Rounds means more start stop where
  extends_code next code := (lays.loops greedy next code).1
  passes next code whole holds := ((lays.loops greedy next code).2 whole holds).2

/-- Two pieces as alternatives. -/
theorem Lays.either {other : Spot → Spot → Prop} (first : Lays piece means)
    (second : Lays piece' other) :
    Lays (fun next code =>
        let (right, code) := piece' next code
        let (left, code) := piece next code
        emit code (.branch left right))
      fun start stop => means start stop ∨ other start stop where
  extends_code next code :=
    ((second.extends_code next code).trans (first.extends_code _ _)).trans (extends_push _ _)
  passes next code whole holds := by
    have before := second.extends_code next code
    have behind := first.extends_code next (piece' next code).2
    have pushed := extends_push (piece next (piece' next code).2).2
      (.branch (piece next (piece' next code).2).1 (piece' next code).1)
    have found := (holds.right (before.trans behind)).pushed
    exact passes_either (fun _ _ _ accepts => accepts.of_branch found)
      (first.passes _ _ whole ((holds.left pushed).right before))
      (second.passes _ _ whole ((holds.left pushed).left behind))

/-! ### The code of expressions -/

theorem Lays.mono {wider : Spot → Spot → Prop} (lays : Lays piece means)
    (implies : ∀ start stop, means start stop → wider start stop) : Lays piece wider where
  extends_code := lays.extends_code
  passes next code whole holds := (lays.passes next code whole holds).mono implies

theorem lays_emit (instruction : Nat → Instruction)
    (passes : ∀ whole address next, whole[address]? = some (instruction next) →
      Passes whole means address next) :
    Lays (fun next code => emit code (instruction next)) means where
  extends_code _ _ := extends_push _ _
  passes _ _ _ holds := passes _ _ _ holds.pushed

/-- The code of a repetition takes what the repetition matches, if the code of its body does. -/
theorem lays_generate_loop {body : Expr} (lays : Lays (generate body) body.Matches) (least : Nat)
    (most : Option Nat) (greedy : Bool) :
    Lays (generate (.loop least most greedy body)) (Expr.loop least most greedy body).Matches := by
  match least, most with
  | least, some most =>
    refine ((lays.times least).then (lays.optionally greedy (most - least))).mono
      fun start stop => ?_
    rintro ⟨middle, before, more, le, behind⟩
    refine ⟨more, fun bound same => ?_, before.append behind⟩
    cases same
    exact le
  | 0, none =>
    have any : ∀ start stop, (∃ more, Rounds body.Matches more start stop) →
        (Expr.loop 0 none greedy body).Matches start stop := by
      rintro start stop ⟨more, rounds⟩
      exact ⟨more, nofun, by rwa [Nat.zero_add]⟩
    by_cases nullable : body.nullable = true
    · have code_eq : generate (.loop 0 none greedy body) = fun next code =>
          let (round, code) := Code.again greedy (generate body) next code
          emit code (choice greedy round next) := by
        funext next code
        rw [generate, if_pos nullable]
      rw [code_eq]
      exact (lays.againOrNone greedy).mono any
    · have code_eq : generate (.loop 0 none greedy body) = fun next code =>
          (code.size, (Code.again greedy (generate body) next code).2) := by
        funext next code
        rw [generate, if_neg nullable]
        rfl
      rw [code_eq]
      exact (lays.loop greedy).mono any
  | least + 1, none =>
    refine ((lays.times least).then (lays.again greedy)).mono fun start stop => ?_
    rintro ⟨middle, before, more, behind⟩
    refine ⟨more, nofun, ?_⟩
    rw [Nat.add_assoc, Nat.add_comm 1]
    exact before.append behind

/-- The code of an expression takes what the expression matches. -/
theorem lays_generate (expr : Expr) : Lays (generate expr) expr.Matches := by
  induction expr with
  | empty => exact ⟨fun _ code => .refl code, fun next _ whole _ => .refl whole next⟩
  | set chars => exact lays_emit (.take chars) fun _ _ _ found => passes_take found
  | look condition => exact lays_emit (.require condition) fun _ _ _ found => passes_require found
  | group captures body inductionHypothesis => exact inductionHypothesis
  | both first second before behind => exact before.then behind
  | either first second left right => exact left.either right
  | loop least most greedy body inductionHypothesis =>
    exact lays_generate_loop inductionHypothesis least most greedy

end Code

/-- A way through the program of an expression that accepts takes what the expression matches. -/
theorem Program.matches_of_accepts {expr : Expr} {steps : Nat} {start stop : Spot}
    (accepts : Code.Accepts (ofExpr expr).code steps ((ofExpr expr).entry, start) stop) :
    expr.Matches start stop := by
  have lays := Code.lays_generate expr
  obtain ⟨middle, fewer, -, matched, rest⟩ :=
    lays.passes 0 #[.accept] _ (fun _ _ _ => rfl) steps start stop accepts
  have accepted : (ofExpr expr).code[0]? = some .accept :=
    (lays.extends_code 0 #[.accept]).kept 0 (by decide)
  rwa [rest.eq_of_accept accepted]

end Rulebook.Pattern
