/-
This file says how the two ways to write a syntax tree in parentheses belong together. The one over
several lines is the one on a single line, laid out anew: put its lines one after the other without
their indentation, each a space apart from what is before it except for a lone closing parenthesis,
and the single line is there again.

A name or a text may contain spaces, quotes and parentheses. What counts is only that a line cannot
be taken for another one: every line begins with a character that is not a space, and the only lines
that begin with a closing parenthesis are those that close a node.
-/

import Rulebook.Ast.Render
import Rulebook.Proofs.Ast.Preorder

namespace Rulebook

open Source (spaces)

namespace Text

/-! ### Lines of a text -/

/-- The lines of a text. A newline ends a line, and what is left behind the last newline is a line
too, unless it is empty. A carriage return is a character like any other. -/
def linesOf (text : List Char) : List (List Char) :=
  let pieces := text.splitOn '\n'
  if pieces.getLast? = some [] then pieces.dropLast else pieces

/-- A line without the spaces it begins with. -/
def unindented (line : List Char) : List Char :=
  line.dropWhile (· == ' ')

/-- A line behind others on one line: a space apart, unless it is a closing parenthesis. -/
def appended (line : List Char) : List Char :=
  if line = [')'] then line else ' ' :: line

/-- The lines of a text on one line, without their indentation. The first is not set apart. -/
def onOneLine (text : String) : String :=
  match (linesOf text.toList).map unindented with
  | [] => ""
  | first :: rest => String.ofList (first ++ rest.flatMap appended)

/-- The lines of a text on one line, behind something else. -/
def continued (text : List Char) : List Char :=
  ((linesOf text).map unindented).flatMap appended

/-- What does not begin with a closing parenthesis may as well come first. -/
theorem onOneLine_of_continued {text line : String}
    (behind : continued text.toList = ' ' :: line.toList) : onOneLine text = line := by
  rw [continued] at behind
  rw [onOneLine]
  cases lines : (linesOf text.toList).map unindented with
  | nil =>
    rw [lines] at behind
    cases behind
  | cons first rest =>
    rw [lines, List.flatMap_cons, appended] at behind
    dsimp only
    by_cases closing : first = [')']
    · rw [if_pos closing, closing] at behind
      exact absurd (List.cons.inj behind).1 (by decide)
    · rw [if_neg closing, List.cons_append] at behind
      rw [(List.cons.inj behind).2, String.ofList_toList]

/-- Behind the newline that ends a line come the other lines. -/
theorem linesOf_line {line : List Char} (single : '\n' ∉ line) (rest : List Char) :
    linesOf (line ++ '\n' :: rest) = line :: linesOf rest := by
  have pieces : (line ++ '\n' :: rest).splitOn '\n' = line :: rest.splitOn '\n' := by
    refine List.splitOnP_append_cons_of_forall_mem (fun c member => ?_) '\n' rfl rest
    exact beq_eq_false_iff_ne.mpr fun newline => single (newline ▸ member)
  obtain ⟨next, more, rest_eq⟩ := List.exists_cons_of_ne_nil (List.splitOn_ne_nil '\n' rest)
  rw [linesOf, linesOf, pieces, rest_eq, List.getLast?_cons_cons]
  split
  · rfl
  · rfl

/-- An indented line in front of others. -/
theorem continued_line {line : String} (indent : Nat) (single : '\n' ∉ line.toList)
    (begins : line.toList.head? ≠ some ' ') (rest : List Char) :
    continued ((spaces indent ++ line ++ "\n").toList ++ rest) =
      appended line.toList ++ continued rest := by
  have shifted : (spaces indent ++ line ++ "\n").toList ++ rest =
      (List.replicate indent ' ' ++ line.toList) ++ '\n' :: rest := by
    simp [spaces]
  have newlineFree : '\n' ∉ List.replicate indent ' ' ++ line.toList := by
    simp [single]
  have kept : unindented (List.replicate indent ' ' ++ line.toList) = line.toList := by
    rw [unindented, List.dropWhile_append_of_pos (by simp)]
    cases chars : line.toList with
    | nil => rfl
    | cons first more =>
      rw [chars] at begins
      exact List.dropWhile_cons_of_neg (by simpa using begins)
  rw [continued, shifted, linesOf_line newlineFree, List.map_cons, List.flatMap_cons, kept]
  rfl

/-- A line that cannot be taken for the end of a node is set apart. -/
theorem continued_opening {line : String} {c : Char} {more : List Char} (indent : Nat)
    (chars : line.toList = c :: more) (single : '\n' ∉ line.toList)
    (opens : c ≠ ' ' ∧ c ≠ ')') (rest : List Char) :
    continued ((spaces indent ++ line ++ "\n").toList ++ rest) =
      ' ' :: line.toList ++ continued rest := by
  have begins : line.toList.head? ≠ some ' ' := by
    rw [chars]
    exact fun same => opens.1 (Option.some.inj same)
  have notClosing : line.toList ≠ [')'] := by
    rw [chars]
    exact fun same => opens.2 (List.cons.inj same).1
  rw [continued_line indent single begins, appended, if_neg notClosing]

theorem continued_closing (indent : Nat) (rest : List Char) :
    continued ((spaces indent ++ ")" ++ "\n").toList ++ rest) = ')' :: continued rest :=
  continued_line indent (by decide) (by decide) rest

end Text

namespace Ast.Node

open Text

/-! ### Trees without newlines -/

/-- No rule name and no text of a token in a tree contains a newline. -/
def Unbroken (node : Node) : Prop :=
  ∀ below ∈ node.subtrees, '\n' ∉ below.name.toList ∧ ∀ text ∈ below.text?, '\n' ∉ text.toList

instance (node : Node) : Decidable node.Unbroken :=
  inferInstanceAs (Decidable (∀ below ∈ node.subtrees,
    '\n' ∉ below.name.toList ∧ ∀ text ∈ below.text?, '\n' ∉ text.toList))

variable {name source : String} {node child : Node} {token : Token}

theorem Unbroken.newline_not_mem_name (unbroken : node.Unbroken) : '\n' ∉ node.name.toList :=
  (unbroken node node.mem_subtrees_self).1

theorem Unbroken.newline_not_mem_text (unbroken : (terminal name source token).Unbroken) :
    '\n' ∉ token.text.toList :=
  (unbroken _ (mem_subtrees_self _)).2 token.text rfl

theorem Unbroken.of_listed (unbroken : node.Unbroken) (listed : child ∈ node.children) :
    child.Unbroken :=
  fun below member => unbroken below (mem_subtrees.mpr (.inr ⟨child, listed, member⟩))

mutual

theorem newline_not_mem_render (node : Node) (unbroken : node.Unbroken) :
    '\n' ∉ node.render.toList := by
  cases node with
  | terminal name source token =>
    rw [render]
    simp [unbroken.newline_not_mem_text]
  | lambda name source =>
    rw [render]
    decide
  | composite name source children accessors =>
    have inside := newline_not_mem_renderAll children fun child listed => unbroken.of_listed listed
    have named : '\n' ∉ name.toList := unbroken.newline_not_mem_name
    rw [render]
    simp [named, inside]

theorem newline_not_mem_renderAll (nodes : List Node)
    (unbroken : ∀ node ∈ nodes, node.Unbroken) : '\n' ∉ (renderAll nodes).toList := by
  cases nodes with
  | nil =>
    rw [renderAll]
    decide
  | cons node rest =>
    obtain ⟨first, later⟩ := List.forall_mem_cons.mp unbroken
    have here := newline_not_mem_render node first
    have behind := newline_not_mem_renderAll rest later
    rw [renderAll]
    simp [here, behind]

end

/-- A tree on one line begins with a quote, a hyphen or an opening parenthesis, so it cannot be
taken for the end of a node, and no indentation is lost in it. -/
theorem exists_render_eq_cons (node : Node) :
    ∃ c more, node.render.toList = c :: more ∧ c ≠ ' ' ∧ c ≠ ')' := by
  cases node with
  | terminal name source token =>
    exact ⟨'\'', token.text.toList ++ ['\''], by rw [render]; simp, by decide⟩
  | lambda name source => exact ⟨'-', [], by rw [render]; rfl, by decide⟩
  | composite name source children accessors =>
    exact ⟨'(', name.toList ++ (renderAll children).toList ++ [')'], by rw [render]; simp,
      by decide⟩

/-! ### Trees over several lines -/

/-- A tree that is on one line already. -/
theorem continued_render (indent : Nat) (unbroken : node.Unbroken) (rest : List Char) :
    continued ((spaces indent ++ node.render ++ "\n").toList ++ rest) =
      ' ' :: node.render.toList ++ continued rest := by
  obtain ⟨c, more, chars, opens⟩ := node.exists_render_eq_cons
  exact continued_opening indent chars (newline_not_mem_render node unbroken) opens rest

mutual

/-- The lines of a tree are the tree on one line, however far they are indented. -/
theorem continued_prettyAt (node : Node) (indent : Nat) (unbroken : node.Unbroken)
    (rest : List Char) : continued ((node.prettyAt indent).toList ++ rest) =
      ' ' :: node.render.toList ++ continued rest := by
  cases node with
  | terminal name source token => exact continued_render indent unbroken rest
  | lambda name source => exact continued_render indent unbroken rest
  | composite name source children accessors =>
    by_cases flat : children.all (!·.isComposite) = true
    · rw [prettyAt, if_pos flat]
      exact continued_render indent unbroken rest
    · -- The first line is set apart, and only the last one is put right behind the children.
      have opening : '\n' ∉ ("(" ++ name).toList := by
        have named : '\n' ∉ name.toList := unbroken.newline_not_mem_name
        simp [named]
      have pieces : (spaces indent ++ "(" ++ name ++ "\n" ++ prettyAll (indent + 2) children ++
          spaces indent ++ ")\n").toList ++ rest =
          (spaces indent ++ ("(" ++ name) ++ "\n").toList ++
            ((prettyAll (indent + 2) children).toList ++
              ((spaces indent ++ ")" ++ "\n").toList ++ rest)) := by
        simp
      have closed : (composite name source children accessors).render.toList =
          ("(" ++ name).toList ++ ((renderAll children).toList ++ [')']) := by
        rw [render]
        simp
      rw [prettyAt, if_neg flat, pieces,
        continued_opening indent (String.toList_append ..) opening (by decide),
        continued_prettyAll children (indent + 2) (fun child listed => unbroken.of_listed listed),
        continued_closing, closed]
      simp

/-- The lines of some trees are the trees on one line, one after the other. -/
theorem continued_prettyAll (nodes : List Node) (indent : Nat)
    (unbroken : ∀ node ∈ nodes, node.Unbroken) (rest : List Char) :
    continued ((prettyAll indent nodes).toList ++ rest) =
      (renderAll nodes).toList ++ continued rest := by
  cases nodes with
  | nil => rw [prettyAll, renderAll]; rfl
  | cons node more =>
    obtain ⟨first, later⟩ := List.forall_mem_cons.mp unbroken
    rw [prettyAll, renderAll, String.toList_append, List.append_assoc,
      continued_prettyAt node indent first, continued_prettyAll more indent later]
    simp

end

/-- The lines of a tree make up the tree on one line again, when they are put one after the other
without their indentation. -/
theorem pretty_on_one_line (node : Node) (unbroken : node.Unbroken) :
    onOneLine node.pretty = node.render := by
  apply onOneLine_of_continued
  have whole := continued_prettyAt node 0 unbroken []
  rwa [List.append_nil, show continued [] = [] from rfl, List.append_nil] at whole

/-- A tree whose names and texts look like parts of the notation. -/
def tangled : Node :=
  ofChildren ") (" [ofToken "quote" ⟨"' )", "quote", 0, ⟨1, 1⟩⟩,
    ofChildren "" [missing "gap", ofChildren ")" []], missing "end"]

/-- Only the lines that close a node are put right behind others. -/
theorem tangled_on_one_line : tangled.Unbroken ∧
    onOneLine "() (\n  '' )'\n  (\n    -\n    ())\n  )\n  -\n)\n" = "() ( '' )' ( - ())) -)" := by
  have unbroken : tangled.Unbroken := by decide
  exact ⟨unbroken, pretty_on_one_line tangled unbroken⟩

end Ast.Node

end Rulebook
