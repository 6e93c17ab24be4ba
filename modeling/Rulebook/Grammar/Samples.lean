/-
This file holds four small grammars, each under a name of the caller's choice: greetings,
lists over two keywords, and two grammars of sums and products. In the first of these
precedence comes from layers; in the second every operand is again an expression, and the
operators have to keep themselves from running in circles.
-/

import Rulebook.Grammar.Basic

namespace Rulebook.Samples

open Grammar

/-- One identifier or two. -/
def helloWorld (compile : Compiler) : Construction Unit := do
  let _ ← addToken compile "identifier" "\\w+" false
  let _ ← addToken compile "whitespace" "\\s+" true
  let start ← addSequence "hw"
    [{ rule := "identifier" }, { rule := "identifier", required := false }]
  setStartSymbol start

/-- Choices and lists over the keywords `other` and `planet`. -/
def planets (compile : Compiler) : Construction Unit := do
  helloWorld compile
  let other ← addKeyword compile "other"
  let planet ← addKeyword compile "planet"
  let comma ← addKeyword compile ","
  let start ← addChoice "op" [other, planet] false
  let plain : ListRule :=
    { item := "identifier", opening := some other, closing := some planet, nullable := true,
      allowTrailing := true }
  let _ ← addList "list1" plain
  let _ ← addList "list2" { plain with separator := some comma }
  let _ ← addList "planets" { item := "identifier", nullable := true }
  let _ ← addSequence "emptyListEOF" [{ rule := "identifier" }, { rule := "planets" }]
  setStartSymbol start

/-- Sums of products of numbers, with one rule for each level. -/
def arithmetic (compile : Compiler) : Construction Unit := do
  let _ ← addToken compile "whitespace" "\\s+" true
  let _ ← addToken compile "number" "\\d+" false
  let times ← addKeyword compile "*"
  let mul ← addOperator "mul" .left times "number"
  let plus ← addKeyword compile "+"
  let add ← addOperator "add" .right plus mul
  let start ← addChoice "expr" [add] false
  setStartSymbol start

/-- Sums and products whose operands are expressions again, in parentheses or not. -/
def backtrackingArithmetic (compile : Compiler) : Construction Unit := do
  setDepthLimit 50
  let _ ← addToken compile "whitespace" "\\s+" true
  let _ ← addToken compile "number" "\\d+" false
  let times ← addKeyword compile "*"
  let mul ← addOperator "mul" .left times "expr"
  let plus ← addKeyword compile "+"
  let add ← addOperator "add" .right plus "expr"
  let left ← addKeyword compile "("
  let right ← addKeyword compile ")"
  let paren ← addSequence "paren" [{ rule := left }, { rule := "expr" }, { rule := right }]
  let start ← addChoice "expr" [add, mul, "number", paren] false
  setStartSymbol start

end Rulebook.Samples
