import TypeAnnotation.Markup.Argument.Node
import TypeAnnotation.Markup.Argument.Token

/-! # The grammar of arguments

An expression is read by rules that are tried in order. Some of them describe common mistakes; they
are tried only after a first reading has failed, and refuse the expression with a complaint.
-/
namespace TypeAnnotation.Markup.Argument

inductive Tree
  | token (token : Token)
  | node (node : Node)
  | group (parts : List Tree)
deriving Inhabited

namespace Tree

mutual

def nodes : Tree → List Node
  | token _ => []
  | node n => [n]
  | group parts => nodesOf parts

def nodesOf : List Tree → List Node
  | [] => []
  | part :: rest => part.nodes ++ nodesOf rest

end

mutual

def tokens : Tree → List Token
  | token t => [t]
  | node _ => []
  | group parts => tokensOf parts

def tokensOf : List Tree → List Token
  | [] => []
  | part :: rest => part.tokens ++ tokensOf rest

end

def head : Tree → Tree
  | group (part :: _) => part
  | t => t

def first (t : Tree) : Node := t.nodes.head?.getD (.form "expression")

end Tree

inductive Rule
  | whole | formatted | expressions | expression | plainExpression
  | yieldExpression | starExpressions | starExpression | starNamedExpressions
  | starNamedExpression | assignment | namedExpression | unassigned
  | disjunction | conjunction | inversion | comparison | comparisonPair
  | alternation | exclusion | intersection | shift | sum | term | factor | power | awaited
  | primary | atom | tuple | group | set | dict | pairs | pair | keyValue
  | generator | setComprehension | dictComprehension | clauses | clause
  | arguments | argumentList | positionals | namedArguments | starred | namedOrStarred
  | namedOrUnpacked
  | targets | target | plainTarget | targetAtom | targetPrimary
  | lambda | parameters | parameterList | parameter | required | defaulted | either | slashRequired
  | slashDefaulted | starParameters | unpackedParameter | defaultValue
  | badExpression | badStatement | badNamedExpression | badGroup | badPairs | badPair
  | badComprehension | badDictComprehension | badTarget | badArguments | badNamedArgument
  | badParameters | badStarParameters | badUnpackedParameter
deriving DecidableEq, Hashable, Repr

inductive Verdict
  | accept (tree : Tree)
  | reject
  | refuse (complaint : String)

/-- A pattern of tokens. A choice takes the first of its patterns that matches, and a repetition
matches as often as it can. -/
inductive Pattern
  | word (text : String)
  | kind (kind : Token.Kind)
  | softKeyword
  | quoted
  | bracketed
  | rule (rule : Rule)
  | all (parts : List Pattern)
  | choice (patterns : List Pattern)
  | many (pattern : Pattern)
  | ahead (pattern : Pattern)
  | absent (pattern : Pattern)
  | judge (pattern : Pattern) (verdict : Tree → Verdict)
  | mistake (pattern : Pattern)
  | lenient (pattern : Pattern)

namespace Pattern

instance : Coe String Pattern := ⟨word⟩
instance : Coe Rule Pattern := ⟨rule⟩

def name : Pattern := kind .name

def optional (p : Pattern) : Pattern := choice [p, all []]

def some (p : Pattern) : Pattern := all [p, many p]

def separated (p separator : Pattern) : Pattern := all [p, many (all [separator, p])]

def make (p : Pattern) (f : Tree → Node) : Pattern := judge p fun t => .accept (.node (f t))

def form (p : Pattern) (title : String) : Pattern := make p fun _ => .form title

def complain (p : Pattern) (complaint : String) : Pattern := judge p fun _ => .refuse complaint

def complainIf (p : Pattern) (complaint : Tree → Option String) : Pattern :=
  judge p fun t => match complaint t with
    | .some text => .refuse text
    | none => .reject

def listed (p : Pattern) : Pattern :=
  make (all [separated p ",", optional ","]) fun t =>
    if t.tokens.isEmpty then t.first else .tuple t.nodes

def chain (operand : Rule) (operators : List Pattern) : Pattern :=
  make (all [operand, many (all [choice operators, operand])]) fun t =>
    if t.nodes.length ≤ 1 then t.first else .form "expression"

end Pattern

open Pattern Rule

def forgottenComma : String := "invalid syntax. Perhaps you forgot a comma?"

def meantEquality : String := "invalid syntax. Maybe you meant '==' or ':=' instead of '='?"

def meantEqualityOnly : String := "expression cannot contain assignment, perhaps you meant \"==\"?"

def looseGenerator : String := "Generator expression must be parenthesized"

def keyWithoutValue : String := "expression expected after dictionary key and ':'"

def starredValue : String := "cannot use a starred expression in a dictionary value"

/-- Sums keep their operands, since a complex number is written as one. -/
def sumOf (t : Tree) : Node :=
  match t.nodes with
  | [] => .form "expression"
  | first :: rest => rest.foldl .sum first

def primaryOf (t : Tree) : Node :=
  match t.nodes with
  | [] => .form "expression"
  | first :: rest => rest.foldl (fun function suffix =>
      match suffix with
      | .call _ values => .call function values
      | node => node) first

def comparisonOf (t : Tree) : Node :=
  match t.nodes with
  | [left] => left
  | left :: .comparison _ membership :: _ => .comparison left membership
  | _ => .form "comparison"

def compared (signs : List String) (membership : Bool) : Pattern :=
  make (all (signs.map word ++ [rule alternation])) fun t => .comparison t.first membership

/-- A numeral. Integers with too many decimal digits are refused. -/
def numberOf (t : Tree) : Verdict :=
  let text := ((t.tokens.head?.map (·.text)).getD "").toList
  let digits := (text.filter (· != '_')).length
  if 4300 < digits && text.all (fun c => c.isDigit || c == '_') then
    .refuse ("Exceeds the limit (4300 digits) for integer string conversion: value has " ++
      toString digits ++ " digits; use sys.set_int_max_str_digits() to increase the limit - " ++
      "Consider hexadecimal for huge integer literals to avoid decimal conversion limits.")
  else .accept (.node (.number (text.getLast? == .some 'j' || text.getLast? == .some 'J')))

def constant (text title : String) : Pattern := make text fun _ => .constant title

def targetComplaint? (t : Tree) : Option String :=
  t.first.badTarget?.map fun node => "cannot assign to " ++ node.formName

def statementComplaint? (t : Tree) : Option String :=
  match t.tokens with
  | [] => none
  | token :: _ =>
    if (Node.name token.text).isStatement then
      .some ("Missing parentheses in call to '" ++ token.text ++ "'. Did you mean " ++ token.text ++
        "(...)?")
    else none

def parameterWith (value : Pattern) : Pattern :=
  choice [all [parameter, value, ","], all [parameter, value, ahead ":"]]

def grammar : Rule → Pattern
  | .whole => all [expressions, many (kind .newline), kind .finish]
  | .formatted => starExpressions
  | .expressions => listed expression
  | .expression => choice [mistake badExpression, mistake badStatement, plainExpression]
  | .plainExpression => choice [
      form (all [disjunction, "if", disjunction, "else", expression]) "conditional expression",
      disjunction, lambda]
  | .yieldExpression => choice [
      form (all ["yield", "from", expression]) "yield expression",
      form (all ["yield", optional starExpressions]) "yield expression"]
  | .starExpressions => listed starExpression
  | .starExpression => choice [
      make (all ["*", alternation]) fun t => .starred t.first, expression]
  | .starNamedExpressions => all [separated starNamedExpression ",", optional ","]
  | .starNamedExpression => choice [
      make (all ["*", alternation]) fun t => .starred t.first, namedExpression]
  | .assignment => form (all [name, ":=", expression]) "named expression"
  | .namedExpression => choice [assignment, mistake badNamedExpression,
      all [expression, absent ":="]]
  | .unassigned => choice [assignment, all [expression, absent ":="]]
  | .disjunction => chain conjunction ["or"]
  | .conjunction => chain inversion ["and"]
  | .inversion => choice [form (all ["not", inversion]) "expression", comparison]
  | .comparison => make (all [alternation, many comparisonPair]) comparisonOf
  | .comparisonPair => choice [
      compared ["=="] false, compared ["!="] false, compared ["<="] false, compared ["<"] false,
      compared [">="] false, compared [">"] false, compared ["not", "in"] false,
      compared ["in"] true, compared ["is", "not"] false, compared ["is"] false]
  | .alternation => chain exclusion ["|"]
  | .exclusion => chain intersection ["^"]
  | .intersection => chain shift ["&"]
  | .shift => chain sum ["<<", ">>"]
  | .sum => make (all [term, many (all [choice ["+", "-"], term])]) sumOf
  | .term => chain factor ["*", "/", "//", "%", "@"]
  | .factor => choice [
      make (all [choice ["+", "-"], factor]) fun t => .signed t.first,
      form (all ["~", factor]) "expression", power]
  | .power => choice [form (all [awaited, "**", factor]) "expression", awaited]
  | .awaited => choice [form (all ["await", primary]) "await expression", primary]
  | .primary => make (all [atom, many (choice [
      form (all [".", name]) "attribute",
      make generator fun t => .call t.first t.nodes,
      make (all ["(", optional arguments, ")"]) fun t => .call t.first t.nodes])]) primaryOf
  | .atom => choice [
      make name fun t => .name ((t.tokens.head?.map (·.text)).getD ""),
      constant "True" "True", constant "False" "False", constant "None" "None",
      quoted, judge (kind .number) numberOf,
      all [ahead "(", choice [tuple, group, generator]],
      all [ahead "\x7b", choice [dict, set, dictComprehension, setComprehension]],
      constant "..." "ellipsis"]
  | .tuple => make (all ["(", optional (all [starNamedExpression, ",",
      optional starNamedExpressions]), ")"]) fun t => .tuple t.nodes
  | .group => choice [
      make (all ["(", choice [yieldExpression, namedExpression], ")"]) Tree.first,
      mistake badGroup]
  | .set => make (all ["\x7b", starNamedExpressions, "\x7d"]) fun t => .set t.nodes
  | .dict => choice [
      make (all ["\x7b", optional pairs, "\x7d"]) fun t => .dict t.nodes,
      all ["\x7b", badPairs, "\x7d"]]
  | .pairs => all [separated pair ",", optional ","]
  | .pair => choice [make (all ["**", alternation]) fun t => .unpacked t.first, keyValue]
  | .keyValue => make (all [expression, ":", expression]) fun t =>
      .entry t.first (t.nodes.getLast?.getD t.first)
  | .generator => choice [
      form (all ["(", unassigned, clauses, ")"]) "generator expression",
      mistake badComprehension]
  | .setComprehension => choice [
      form (all ["\x7b", namedExpression, clauses, "\x7d"]) "set comprehension",
      mistake badComprehension]
  | .dictComprehension => choice [
      form (all ["\x7b", keyValue, clauses, "\x7d"]) "dict comprehension",
      mistake badDictComprehension]
  | .clauses => Pattern.some clause
  | .clause => choice [
      all [optional "async", "for", targets, "in", disjunction, many (all ["if", disjunction])],
      mistake (all [absent (all [optional "async", "for", targets, "in"]), badTarget])]
  | .arguments => choice [all [argumentList, optional ",", ahead ")"], mistake badArguments]
  | .argumentList => choice [
      all [positionals, optional (all [",", namedArguments])],
      namedArguments]
  | .positionals => separated (choice [starred, all [unassigned, absent "="]]) ","
  | .namedArguments => choice [
      all [separated namedOrStarred ",", ",", separated namedOrUnpacked ","],
      separated namedOrStarred ",", separated namedOrUnpacked ","]
  | .starred => choice [make (all ["*", expression]) fun t => .starred t.first,
      complain "*" "Invalid star expression"]
  | .namedOrStarred => choice [mistake badNamedArgument,
      make (all [name, "=", expression]) fun t => .keyword t.first, starred]
  | .namedOrUnpacked => choice [mistake badNamedArgument,
      make (all [name, "=", expression]) fun t => .keyword t.first,
      make (all ["**", expression]) fun t => .unpacked t.first]
  | .targets => choice [all [target, absent ","], all [separated target ",", optional ","]]
  | .target => choice [all ["*", absent "*", target], plainTarget]
  | .plainTarget => choice [
      all [targetPrimary, ".", name, absent (choice ["(", "."])], targetAtom]
  | .targetAtom => choice [name, all ["(", plainTarget, ")"],
      all ["(", optional (choice [all [target, Pattern.some (all [",", target]), optional ","],
        all [target, ","]]), ")"]]
  | .targetPrimary =>
      let follows := ahead (choice ["(", "."])
      all [atom, follows, many (choice [all [".", name, follows], all [generator, follows],
        all ["(", optional arguments, ")", follows]])]
  | .lambda => form (all ["lambda", optional parameters, ":", expression]) "lambda"
  | .parameters => choice [mistake badParameters, parameterList]
  | .parameterList => choice [
      all [slashRequired, many required, many defaulted, optional starParameters],
      all [slashDefaulted, many defaulted, optional starParameters],
      all [Pattern.some required, many defaulted, optional starParameters],
      all [Pattern.some defaulted, optional starParameters],
      starParameters]
  | .parameter => name
  | .required => parameterWith (all [])
  | .defaulted => parameterWith defaultValue
  | .either => parameterWith (optional defaultValue)
  | .slashRequired => choice [all [Pattern.some required, "/", ","],
      all [Pattern.some required, "/", ahead ":"]]
  | .slashDefaulted => choice [all [many required, Pattern.some defaulted, "/", ","],
      all [many required, Pattern.some defaulted, "/", ahead ":"]]
  | .starParameters => choice [mistake badStarParameters,
      all ["*", required, many either, optional unpackedParameter],
      all ["*", ",", Pattern.some either, optional unpackedParameter], unpackedParameter]
  | .unpackedParameter => choice [mistake badUnpackedParameter, all ["**", required]]
  | .defaultValue => choice [all ["=", expression],
      mistake (complain (all ["=", ahead (choice [")", ","])]) "expected default value expression")]
  | .badExpression => choice [
      complainIf (all [absent (choice [all [name, kind (.quoted {})], softKeyword]), disjunction,
        lenient plainExpression, bracketed]) fun t =>
          if t.first.isStatement then none else .some forgottenComma,
      complain (all [disjunction, "if", disjunction, absent (choice ["else", ":"])])
        "expected 'else' after 'if' expression"]
  | .badStatement => complainIf (all [name, absent "(", starExpressions]) statementComplaint?
  | .badNamedExpression => choice [
      complainIf (all [expression, ":=", expression]) fun t =>
        .some ("cannot use assignment expressions with " ++ t.first.formName),
      complain (all [name, "=", alternation, absent (choice ["=", ":="])]) meantEquality,
      complainIf (all [absent (choice [tuple, generator, "True", "None", "False"]), alternation,
        "=", alternation, absent (choice ["=", ":="])]) fun t =>
          .some ("cannot assign to " ++ t.first.formName ++
            " here. Maybe you meant '==' instead of '='?")]
  | .badGroup => choice [
      complain (all ["(", starred, ")"]) "cannot use starred expression here",
      complain (all ["(", "**", expression, ")"]) "cannot use double starred expression here"]
  | .badPairs => choice [
      all [separated pair ",", ",", badPair],
      complain (all [expression, ":", "*", alternation]) starredValue,
      complain (all [expression, ":", ahead (choice ["\x7d", ","])]) keyWithoutValue]
  | .badPair => choice [
      complain (all [expression, absent ":"]) "':' expected after dictionary key",
      complain (all [expression, ":", "*", alternation]) starredValue,
      complain (all [expression, ":", ahead (choice ["\x7d", ","])]) keyWithoutValue]
  | .badComprehension => choice [
      complain (all [choice ["(", "\x7b"], starred, clauses])
        "iterable unpacking cannot be used in comprehension",
      complain (all ["\x7b", starNamedExpression, ",", optional starNamedExpressions, clauses])
        "did you forget parentheses around the comprehension target?"]
  | .badDictComprehension =>
      complain (all ["\x7b", "**", alternation, clauses, "\x7d"])
        "dict unpacking cannot be used in dict comprehension"
  | .badTarget =>
      complainIf (all [optional "async", "for", starExpressions]) targetComplaint?
  | .badArguments => choice [
      complain (all [choice [all [positionals, ",", namedArguments], namedArguments], ",",
        separated (all [starred, absent "="]) ","])
        "iterable argument unpacking follows keyword argument unpacking",
      complain (all [expression, clauses, ",",
        optional (choice [argumentList, all [expression, clauses]])]) looseGenerator,
      complain (all [name, "=", expression, clauses]) meantEquality,
      complainIf (all [argumentList, clauses]) fun t =>
        if (t.head.nodes.filter (·.isPositional)).length ≤ 1 then none else .some looseGenerator,
      complain (all [argumentList, ",", expression, clauses]) looseGenerator,
      complainIf (all [argumentList, ",", argumentList]) fun t =>
        .some ("positional argument follows keyword argument" ++
          if t.head.nodes.any (·.isUnpacked) then " unpacking" else "")]
  | .badNamedArgument => choice [
      complainIf (all [choice ["True", "False", "None"], "="]) fun t =>
        .some ("cannot assign to " ++ (t.tokens.head?.map (·.text)).getD ""),
      complain (all [name, "=", expression, clauses]) meantEquality,
      complain (all [absent (all [name, "="]), expression, "="]) meantEqualityOnly]
  | .badParameters => choice [
      complain (all [many required, choice [slashDefaulted, Pattern.some defaulted], required])
        "non-default argument follows default argument",
      complain (all [many required, "(", separated parameter ",", optional ",", ")"])
        "Lambda expression parameters cannot be parenthesized",
      complain (all ["/", ","]) "at least one argument must precede /",
      complain (all [choice [slashRequired, slashDefaulted], many either, "/"])
        "/ may appear only once",
      complain (all [optional (choice [slashRequired, slashDefaulted]), many either, "*",
        choice [",", required], many either, "/"]) "/ must be ahead of *",
      complain (all [Pattern.some either, "/", "*"]) "expected comma between / and *"]
  | .badStarParameters => choice [
      complain (all ["*", choice [":", all [",", choice [":", "**"]]]])
        "named arguments must follow bare *",
      complain (all ["*", parameter, "="]) "var-positional argument cannot have default value",
      complain (all ["*", choice [required, ","], many either, "*", choice [required, ","]])
        "* argument may appear only once"]
  | .badUnpackedParameter => choice [
      complain (all ["**", parameter, "="]) "var-keyword argument cannot have default value",
      complain (all ["**", parameter, ",", parameter])
        "arguments cannot follow var-keyword argument",
      complain (all ["**", parameter, ",", choice ["*", "**", "/"]])
        "arguments cannot follow var-keyword argument"]

end TypeAnnotation.Markup.Argument
