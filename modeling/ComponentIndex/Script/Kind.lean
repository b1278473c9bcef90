/-
**Kinds of syntax nodes of a script.**

A script is represented by its concrete syntax tree.  Every node has a kind; the anonymous kind
`token` stands for punctuation and keywords.  A child may play a *role* in its parent; only the
roles that some decision of the library looks at are recorded.

Main definitions:

* `ComponentIndex.Script.Kind`, `ComponentIndex.Script.Kind.label` — the kinds and their names;
* `ComponentIndex.Script.Role` — the roles;
* `ComponentIndex.Script.Kind.isLiteral`, `ComponentIndex.Script.Kind.isProperty` — the kinds of
  literals, and of the properties of an object literal.
-/

import ComponentIndex.Text.Basic

set_option relaxedAutoImplicit false
set_option autoImplicit false

namespace ComponentIndex.Script

/-- The kind of a syntax node. -/
inductive Kind where
  /-- A punctuator or a keyword. -/
  | token (text : Text)
  /-- A kind that no decision looks at, such as that of a stretch which cannot be made out. -/
  | other (name : Text)
  | program | hashBangLine | comment | markupComment
  -- statements
  | exportStatement | namespaceExport | exportClause | exportSpecifier
  | importStatement | importClause | namespaceImport | namedImports | importSpecifier
  | importAttribute
  | debuggerStatement | expressionStatement | variableDeclaration | lexicalDeclaration
  | variableDeclarator | statementBlock | elseClause | ifStatement | switchStatement | switchBody
  | switchCase | switchDefault | forStatement | forInStatement | whileStatement | doStatement
  | tryStatement | catchClause | finallyClause | withStatement | breakStatement
  | continueStatement | returnStatement | throwStatement | emptyStatement | labeledStatement
  | statementIdentifier | functionDeclaration | generatorFunctionDeclaration | classDeclaration
  -- expressions
  | parenthesizedExpression | identifier | undefinedName | thisExpression | superExpression
  | number | string | stringFragment | escapeSequence | templateString | templateSubstitution
  | regex | trueLiteral | falseLiteral | nullLiteral | object | array | functionExpression
  | arrowFunction | generatorFunction | classExpression | metaProperty | importKeyword
  | callExpression | newExpression | memberExpression | subscriptExpression | optionalChain
  | assignmentExpression | augmentedAssignmentExpression | awaitExpression | unaryExpression
  | binaryExpression | ternaryExpression | updateExpression | yieldExpression
  | sequenceExpression | spreadElement | arguments | formalParameters
  -- members of objects and classes
  | pair | methodDefinition | shorthandPropertyIdentifier | propertyIdentifier
  | privatePropertyIdentifier | computedPropertyName
  | classBody | classHeritage | fieldDefinition | classStaticBlock | decorator
  -- binding patterns
  | objectPattern | arrayPattern | pairPattern | restPattern | assignmentPattern
  | objectAssignmentPattern | shorthandPropertyIdentifierPattern
  -- embedded markup
  | markupElement | markupSelfClosingElement | markupOpeningElement | markupClosingElement
  | markupAttribute | markupExpression | markupNamespaceName | characterReference
deriving DecidableEq

/-- The part that a child plays in its parent. -/
inductive Role where
  /-- The key of a pair. -/
  | key
  /-- The value of a pair, or the exported value of a default export. -/
  | value
  /-- The object of a member access. -/
  | object
  /-- The property of a member access. -/
  | property
  /-- The function of a call. -/
  | function
  /-- The constructor of a `new` expression. -/
  | constructor
  /-- The arguments of a call or a `new` expression. -/
  | arguments
deriving DecidableEq

namespace Kind

/-- The name of a kind in listings. -/
def label : Kind → Text
  | token text => text
  | other name => name
  | program => "program"
  | hashBangLine => "hash_bang_line"
  | comment => "comment"
  | markupComment => "html_comment"
  | exportStatement => "export_statement"
  | namespaceExport => "namespace_export"
  | exportClause => "export_clause"
  | exportSpecifier => "export_specifier"
  | importStatement => "import_statement"
  | importClause => "import_clause"
  | namespaceImport => "namespace_import"
  | namedImports => "named_imports"
  | importSpecifier => "import_specifier"
  | importAttribute => "import_attribute"
  | debuggerStatement => "debugger_statement"
  | expressionStatement => "expression_statement"
  | variableDeclaration => "variable_declaration"
  | lexicalDeclaration => "lexical_declaration"
  | variableDeclarator => "variable_declarator"
  | statementBlock => "statement_block"
  | elseClause => "else_clause"
  | ifStatement => "if_statement"
  | switchStatement => "switch_statement"
  | switchBody => "switch_body"
  | switchCase => "switch_case"
  | switchDefault => "switch_default"
  | forStatement => "for_statement"
  | forInStatement => "for_in_statement"
  | whileStatement => "while_statement"
  | doStatement => "do_statement"
  | tryStatement => "try_statement"
  | catchClause => "catch_clause"
  | finallyClause => "finally_clause"
  | withStatement => "with_statement"
  | breakStatement => "break_statement"
  | continueStatement => "continue_statement"
  | returnStatement => "return_statement"
  | throwStatement => "throw_statement"
  | emptyStatement => "empty_statement"
  | labeledStatement => "labeled_statement"
  | statementIdentifier => "statement_identifier"
  | functionDeclaration => "function_declaration"
  | generatorFunctionDeclaration => "generator_function_declaration"
  | classDeclaration => "class_declaration"
  | parenthesizedExpression => "parenthesized_expression"
  | identifier => "identifier"
  | undefinedName => "undefined"
  | thisExpression => "this"
  | superExpression => "super"
  | number => "number"
  | string => "string"
  | stringFragment => "string_fragment"
  | escapeSequence => "escape_sequence"
  | templateString => "template_string"
  | templateSubstitution => "template_substitution"
  | regex => "regex"
  | trueLiteral => "true"
  | falseLiteral => "false"
  | nullLiteral => "null"
  | object => "object"
  | array => "array"
  | functionExpression => "function_expression"
  | arrowFunction => "arrow_function"
  | generatorFunction => "generator_function"
  | classExpression => "class"
  | metaProperty => "meta_property"
  | importKeyword => "import"
  | callExpression => "call_expression"
  | newExpression => "new_expression"
  | memberExpression => "member_expression"
  | subscriptExpression => "subscript_expression"
  | optionalChain => "optional_chain"
  | assignmentExpression => "assignment_expression"
  | augmentedAssignmentExpression => "augmented_assignment_expression"
  | awaitExpression => "await_expression"
  | unaryExpression => "unary_expression"
  | binaryExpression => "binary_expression"
  | ternaryExpression => "ternary_expression"
  | updateExpression => "update_expression"
  | yieldExpression => "yield_expression"
  | sequenceExpression => "sequence_expression"
  | spreadElement => "spread_element"
  | arguments => "arguments"
  | formalParameters => "formal_parameters"
  | pair => "pair"
  | methodDefinition => "method_definition"
  | shorthandPropertyIdentifier => "shorthand_property_identifier"
  | propertyIdentifier => "property_identifier"
  | privatePropertyIdentifier => "private_property_identifier"
  | computedPropertyName => "computed_property_name"
  | classBody => "class_body"
  | classHeritage => "class_heritage"
  | fieldDefinition => "field_definition"
  | classStaticBlock => "class_static_block"
  | decorator => "decorator"
  | objectPattern => "object_pattern"
  | arrayPattern => "array_pattern"
  | pairPattern => "pair_pattern"
  | restPattern => "rest_pattern"
  | assignmentPattern => "assignment_pattern"
  | objectAssignmentPattern => "object_assignment_pattern"
  | shorthandPropertyIdentifierPattern => "shorthand_property_identifier_pattern"
  | markupElement => "jsx_element"
  | markupSelfClosingElement => "jsx_self_closing_element"
  | markupOpeningElement => "jsx_opening_element"
  | markupClosingElement => "jsx_closing_element"
  | markupAttribute => "jsx_attribute"
  | markupExpression => "jsx_expression"
  | markupNamespaceName => "jsx_namespace_name"
  | characterReference => "html_character_reference"

/-- A kind with a name of its own, as opposed to punctuation. -/
def isNamed : Kind → Bool
  | token _ => false
  | _ => true

/-- A literal: a string, a number, a Boolean, `null` or a regular expression. -/
def isLiteral : Kind → Bool
  | string | number | trueLiteral | falseLiteral | nullLiteral | regex => true
  | _ => false

/-- A property of an object literal: a pair, a method or a shorthand. -/
def isProperty : Kind → Bool
  | pair | methodDefinition | shorthandPropertyIdentifier => true
  | _ => false

/-- A call or a `new` expression. -/
def isCall : Kind → Bool
  | callExpression | newExpression => true
  | _ => false

end Kind

end ComponentIndex.Script
