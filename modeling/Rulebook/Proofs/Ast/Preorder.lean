/-
This file lists the nodes of a syntax tree and says in which order the queries look at them. A walk
calls its visitor on the nodes in turn, a parent before its children and the children from left to
right, and ends with the first node to which the visitor says no. What a visitor answers may depend
on the calls before, so its memory is handed on from call to call, also out of one subtree and into
the next.

Looking for a child by its name and collecting the texts of the tokens are walks with visitors of
their own.
-/

import Mathlib.Data.List.Basic
import Rulebook.Ast.Node

namespace Rulebook.Ast.Node

/-! ### All nodes of a syntax tree -/

mutual

/-- A node and all nodes below it, parents first, and children from left to right. -/
def subtrees : Node → List Node
  | .terminal name source token => [.terminal name source token]
  | .lambda name source => [.lambda name source]
  | .composite name source children accessors =>
    .composite name source children accessors :: subtreesOfAll children

/-- Some nodes and all nodes below them. -/
def subtreesOfAll : List Node → List Node
  | [] => []
  | node :: rest => subtrees node ++ subtreesOfAll rest

end

theorem mem_subtreesOfAll {node : Node} {nodes : List Node} :
    node ∈ subtreesOfAll nodes ↔ ∃ top ∈ nodes, node ∈ top.subtrees := by
  induction nodes with
  | nil => simp [subtreesOfAll]
  | cons first rest inductionHypothesis =>
    rw [subtreesOfAll, List.mem_append, inductionHypothesis, List.exists_mem_cons_iff]

/-- What is in a tree is its top or below a child of it. -/
theorem mem_subtrees {node top : Node} :
    node ∈ top.subtrees ↔ node = top ∨ ∃ child ∈ top.children, node ∈ child.subtrees := by
  cases top with
  | terminal name source token => simp [subtrees, children]
  | lambda name source => simp [subtrees, children]
  | composite name source nodes accessors =>
    rw [subtrees, List.mem_cons, mem_subtreesOfAll, children]

theorem mem_subtrees_self (node : Node) : node ∈ node.subtrees :=
  mem_subtrees.mpr (.inl rfl)

section

variable {Memory : Type} {visit : Node → Memory → Bool × Memory}

/-! ### Calls in turn -/

/-- Call a visitor on some nodes in turn, until it says no. -/
def visitEach (visit : Node → Memory → Bool × Memory) : List Node → Memory → Bool × Memory
  | [], memory => (true, memory)
  | node :: rest, memory =>
    match visit node memory with
    | (true, memory) => visitEach visit rest memory
    | (false, memory) => (false, memory)

theorem visitEach_append (nodes more : List Node) (memory : Memory) :
    visitEach visit (nodes ++ more) memory =
      match visitEach visit nodes memory with
      | (true, memory) => visitEach visit more memory
      | (false, memory) => (false, memory) := by
  induction nodes generalizing memory with
  | nil => rfl
  | cons node rest inductionHypothesis =>
    rw [List.cons_append, visitEach, visitEach]
    obtain ⟨answer, next⟩ := visit node memory
    cases answer with
    | false => rfl
    | true => exact inductionHypothesis next

mutual

/-- A walk calls the visitor on the nodes of the tree in turn. -/
theorem walk_eq_visitEach (node : Node) (memory : Memory) :
    node.walk visit memory = visitEach visit node.subtrees memory := by
  cases node with
  | terminal name source token =>
    rw [walk, subtrees, visitEach]
    rcases visit (.terminal name source token) memory with ⟨_ | _, next⟩ <;> rfl
  | lambda name source =>
    rw [walk, subtrees, visitEach]
    rcases visit (.lambda name source) memory with ⟨_ | _, next⟩ <;> rfl
  | composite name source children accessors =>
    rw [walk, subtrees, visitEach]
    obtain ⟨answer, next⟩ := visit (.composite name source children accessors) memory
    cases answer with
    | false => rfl
    | true => exact walkAll_eq_visitEach children next

/-- A walk over some trees calls the visitor on the nodes of one tree after the other. -/
theorem walkAll_eq_visitEach (nodes : List Node) (memory : Memory) :
    walkAll visit nodes memory = visitEach visit (subtreesOfAll nodes) memory := by
  cases nodes with
  | nil => rw [walkAll, subtreesOfAll, visitEach]
  | cons node rest =>
    rw [walkAll, subtreesOfAll, visitEach_append, walk_eq_visitEach node memory]
    obtain ⟨answer, next⟩ := visitEach visit node.subtrees memory
    cases answer with
    | false => rfl
    | true => exact walkAll_eq_visitEach rest next

end

/-! ### The nodes that are visited -/

/-- What a visitor remembers after calls on some nodes in turn. -/
def memoryAfter (visit : Node → Memory → Bool × Memory) (memory : Memory) (nodes : List Node) :
    Memory :=
  nodes.foldl (fun memory node => (visit node memory).2) memory

/-- Called on some nodes in turn, a visitor says yes to every one of them. -/
def Approves (visit : Node → Memory → Bool × Memory) (memory : Memory) : List Node → Prop
  | [] => True
  | node :: rest => (visit node memory).1 = true ∧ Approves visit (visit node memory).2 rest

/-- A visitor that also keeps the nodes on which it has been called, in the order of the calls. -/
def recording (visit : Node → Memory → Bool × Memory) (node : Node) (memory : Memory × List Node) :
    Bool × Memory × List Node :=
  ((visit node memory.1).1, (visit node memory.1).2, memory.2 ++ [node])

/-- Of some nodes, a visitor is called on the first ones, up to and with the first to which it says
no. If it says no to none, it is called on all of them, and the calls are complete. -/
structure Visits (visit : Node → Memory → Bool × Memory) (memory : Memory)
    (nodes visited : List Node) (complete : Bool) : Prop where
  visited_prefix : visited <+: nodes
  complete_iff : complete = true ↔ Approves visit memory nodes
  all : complete = true → visited = nodes
  stopped : complete = false → ∃ before last, visited = before ++ [last] ∧
    Approves visit memory before ∧ (visit last (memoryAfter visit memory before)).1 = false

variable {node : Node} {nodes visited : List Node} {memory : Memory} {complete : Bool}

theorem visits_nil : Visits visit memory [] [] true where
  visited_prefix := List.prefix_refl _
  complete_iff := iff_of_true rfl trivial
  all _ := rfl
  stopped incomplete := by cases incomplete

theorem visits_of_refused (refused : (visit node memory).1 = false) :
    Visits visit memory (node :: nodes) [node] false where
  visited_prefix := List.prefix_append [node] nodes
  complete_iff := iff_of_false Bool.false_ne_true fun approved => by
    rw [Approves, refused] at approved
    exact Bool.false_ne_true approved.1
  all complete := by cases complete
  stopped _ := ⟨[], node, rfl, trivial, refused⟩

theorem Visits.cons (approved : (visit node memory).1 = true)
    (visits : Visits visit (visit node memory).2 nodes visited complete) :
    Visits visit memory (node :: nodes) (node :: visited) complete where
  visited_prefix := (List.prefix_cons_inj node).mpr visits.visited_prefix
  complete_iff := by rw [Approves, visits.complete_iff, and_iff_right approved]
  all complete := congrArg (node :: ·) (visits.all complete)
  stopped incomplete := by
    obtain ⟨before, last, rfl, approvedBefore, refused⟩ := visits.stopped incomplete
    exact ⟨node :: before, last, rfl, ⟨approved, approvedBefore⟩, refused⟩

/-- Calls in turn are made on the first nodes, up to and with the first to which the visitor says
no. -/
theorem exists_visits (visit : Node → Memory → Bool × Memory) (nodes : List Node)
    (memory : Memory) : ∃ visited complete, Visits visit memory nodes visited complete ∧
      visitEach visit nodes memory = (complete, memoryAfter visit memory visited) ∧
      ∀ earlier, visitEach (recording visit) nodes (memory, earlier) =
        (complete, memoryAfter visit memory visited, earlier ++ visited) := by
  induction nodes generalizing memory with
  | nil =>
    exact ⟨[], true, visits_nil, rfl, fun earlier => by rw [List.append_nil]; rfl⟩
  | cons node rest inductionHypothesis =>
    cases answer : (visit node memory).1 with
    | false =>
      have call : visit node memory = (false, (visit node memory).2) := Prod.ext answer rfl
      refine ⟨[node], false, visits_of_refused answer, ?_, fun earlier => ?_⟩
      · rw [visitEach, call]
        rfl
      · rw [visitEach, recording, answer]
        rfl
    | true =>
      have call : visit node memory = (true, (visit node memory).2) := Prod.ext answer rfl
      obtain ⟨visited, complete, visits, made, recorded⟩ :=
        inductionHypothesis (visit node memory).2
      refine ⟨node :: visited, complete, visits.cons answer, ?_, fun earlier => ?_⟩
      · rw [visitEach, call]
        exact made
      · rw [visitEach, recording, answer]
        dsimp only
        rw [recorded, List.append_assoc]
        rfl

end

/-! ### Visitors of queries -/

/-- A visitor that looks for a child of a name, and stops when it has found one. -/
def finder (accessor : String) (node : Node) (found : Option Node) : Bool × Option Node :=
  match node.named? accessor with
  | some child => (false, some child)
  | none => (true, found)

/-- A visitor that keeps the texts of tokens, the latest first. -/
def collector (node : Node) (texts : List String) : Bool × List String :=
  match node.text? with
  | some text => (true, text :: texts)
  | none => (true, texts)

theorem visitEach_finder (accessor : String) (nodes : List Node) :
    (visitEach (finder accessor) nodes none).2 =
      (nodes.find? fun node => (node.named? accessor).isSome).bind (·.named? accessor) := by
  induction nodes with
  | nil => rfl
  | cons node rest inductionHypothesis =>
    rw [visitEach, finder]
    cases named : node.named? accessor with
    | some child =>
      have isNamed : (node.named? accessor).isSome = true := Option.isSome_iff_exists.mpr ⟨_, named⟩
      rw [List.find?_cons, isNamed]
      exact named.symm
    | none =>
      have isUnnamed : (node.named? accessor).isSome = false := by rw [named, Option.isSome_none]
      rw [List.find?_cons, isUnnamed]
      exact inductionHypothesis

theorem visitEach_collector (nodes : List Node) (texts : List String) :
    visitEach collector nodes texts = (true, (nodes.filterMap text?).reverse ++ texts) := by
  induction nodes generalizing texts with
  | nil => rfl
  | cons node rest inductionHypothesis =>
    rw [visitEach, collector]
    cases text : node.text? with
    | some own =>
      rw [List.filterMap_cons_some text, List.reverse_cons, List.append_assoc]
      exact inductionHypothesis (own :: texts)
    | none =>
      rw [List.filterMap_cons_none text]
      exact inductionHypothesis texts

/-- The texts of all tokens are found in the order of the nodes. -/
theorem allTexts_eq (node : Node) : node.allTexts = node.subtrees.filterMap text? := by
  have collected : node.walk collector [] = (true, (node.subtrees.filterMap text?).reverse) := by
    rw [walk_eq_visitEach, visitEach_collector, List.append_nil]
  rw [← List.reverse_reverse (node.subtrees.filterMap text?)]
  exact congrArg (·.2.reverse) collected

/-- Tokens have a text, and nothing else has. -/
theorem map_some_filterMap_text? (nodes : List Node) :
    (nodes.filterMap text?).map some = (nodes.filter isTerminal).map text? := by
  induction nodes with
  | nil => rfl
  | cons node rest inductionHypothesis =>
    cases node with
    | terminal name source token => exact congrArg (some token.text :: ·) inductionHypothesis
    | lambda name source => exact inductionHypothesis
    | composite name source children accessors => exact inductionHypothesis

/-! ### The queries -/

/-- The queries go through the nodes of a tree in order. A walk calls its visitor on the first
nodes, up to and with the first to which the visitor says no, and is complete if there is none. The
child found under a name is that of the first node with such a child, and the texts are those of
the tokens. -/
theorem queries_go_in_order (node : Node) :
    (∀ (Memory : Type) (visit : Node → Memory → Bool × Memory) (memory : Memory),
      ∃ visited complete, Visits visit memory node.subtrees visited complete ∧
        node.walk visit memory = (complete, memoryAfter visit memory visited) ∧
        node.walk (recording visit) (memory, []) =
          (complete, memoryAfter visit memory visited, visited)) ∧
    (∀ accessor, node.find? accessor =
      (node.subtrees.find? fun below => (below.named? accessor).isSome).bind
        (·.named? accessor)) ∧
    node.allTexts.map some = (node.subtrees.filter isTerminal).map text? := by
  refine ⟨fun Memory visit memory => ?_, fun accessor => ?_, ?_⟩
  · obtain ⟨visited, complete, visits, made, recorded⟩ := exists_visits visit node.subtrees memory
    refine ⟨visited, complete, visits, ?_, ?_⟩
    · rw [walk_eq_visitEach, made]
    · rw [walk_eq_visitEach, recorded, List.nil_append]
  · rw [← visitEach_finder, ← walk_eq_visitEach]
    rfl
  · rw [allTexts_eq, map_some_filterMap_text?]

/-- A tree with the same name at its top and one level further down. At the top the name is the
index of a child that does not exist. -/
def dangling : Node :=
  withAccessors "outer"
    [withAccessors "inner" [ofToken "number" ⟨"1", "number", 0, ⟨1, 1⟩⟩, missing "rest"]
      [("value", 0)], missing "end"] [("value", 7)]

/-- A visitor that says yes to a number of nodes and no to the next. -/
def patient (_ : Node) (patience : Nat) : Bool × Nat :=
  (patience != 0, patience - 1)

/-- The name is found further down, and a walk may end inside of a subtree. -/
theorem queries_pass_dangling_name :
    dangling.find? "value" = some (ofToken "number" ⟨"1", "number", 0, ⟨1, 1⟩⟩) ∧
      dangling.allTexts.map some = [some "1"] ∧
      ∃ visited, Visits patient 2 dangling.subtrees visited false ∧
        visited.map name = ["outer", "inner", "number"] := by
  obtain ⟨walks, finds, texts⟩ := queries_go_in_order dangling
  refine ⟨(finds "value").trans rfl, texts.trans rfl, ?_⟩
  obtain ⟨visited, complete, visits, -, recorded⟩ := walks Nat patient 2
  have walked : dangling.walk (recording patient) (2, []) =
      (false, 0, dangling.subtrees.take 3) := rfl
  rw [walked] at recorded
  obtain ⟨rfl, -, rfl⟩ : false = complete ∧ 0 = memoryAfter patient 2 visited ∧
      dangling.subtrees.take 3 = visited := by
    simpa using recorded
  exact ⟨_, visits, rfl⟩

end Rulebook.Ast.Node
