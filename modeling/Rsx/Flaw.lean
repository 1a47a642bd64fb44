set_option autoImplicit false

namespace Rsx

inductive Flaw where
  | unexpectedToken
  | unexpectedEnd
  | mergeConflict
  | expected (wanted found : String)
  | expectedEither (separator close found : String)
  | noSemicolon
  | identifierExpected
  | reservedWord (word : String)
  | escapedKeyword
  | invalidCharacter (c : Char)
  | invalidNumberEnd
  | invalidEscape
  | invalidUnicodeEscape
  | invalidTemplateEscape
  | unterminatedString
  | unterminatedRegex
  | unterminatedComment
  | regexFlag (c : Char)
  | regexFlagTwice (c : Char)
  | regexFlagsTogether
  | strayBrace
  | strayAngle
  | invalidAssignment
  | defaultOperator
  | invalidRestArgument
  | spreadNotLast
  | restNotLast
  | restPatternNotLast
  | restPatternComma
  | restInitializer
  | restOptional
  | restElementInitializer
  | restElementName
  | restElementInvalid
  | missingConstInitializer
  | missingPatternInitializer
  | optionalDeclaration
  | definiteWithoutType
  | definiteInitializer
  | usingPattern
  | usingInitializer
  | usingExport
  | usingForIn (words : String)
  | missingFunctionName
  | missingFunctionBody
  | missingCatch
  | missingSwitchClause
  | newlineAfterThrow
  | returnOutsideFunction
  | yieldOutsideGenerator
  | yieldIdentifier
  | awaitIdentifier
  | awaitOutsideAsync
  | forAwaitNotOf
  | forOfAsync
  | lexicalNested
  | classNested
  | asyncNested
  | generatorNested
  | unaryExponent
  | mixedCoalesce
  | emptyParentheses
  | parenthesesComma
  | optionalChainName
  | optionalChainTemplate
  | newOptionalChain
  | newDynamicImport
  | importSpecifier
  | importArity
  | importMeta
  | newTarget
  | unexpectedSuper
  | unexpectedPrivate
  | coverInitializer
  | newlineBeforeArrow
  | getterParameters
  | setterParameters
  | setterRest
  | setterInitializer
  | setterType
  | optionalParameterInitializer
  | parameterPropertyPattern
  | thisParameterArrow
  | thisParameterConstructor
  | ambientImplementation
  | decoratorsHere
  | decoratorsTwice
  | modifierTwice (word : String)
  | accessTwice
  | modifierOrder (late early : String)
  | modifierHere (word : String)
  | modifierOnParameter (word : String)
  | modifierOnMember (word : String)
  | modifierOnTypeMember (word : String)
  | modifierOnTypeParameter (word : String)
  | modifierOnIndex (word : String)
  | modifierOnAccessor (word : String)
  | readonlyPlace
  | accessOnPrivate
  | constMember
  | singleExtends
  | extendsTwice
  | implementsTwice
  | extendsLate
  | interfaceImplements
  | interfaceExtends
  | constructorAccessor
  | constructorGenerator
  | constructorAsync
  | constructorTypeParameters
  | constructorType
  | fieldConstructor
  | privateConstructor
  | staticPrototype
  | abstractImplementation (name : String)
  | abstractAccessor (name : String)
  | abstractInitializer (name : String)
  | optionalAccessor
  | optionalDefinite
  | emptyTypeArguments
  | emptyTypeParameters
  | indexParameters
  | indexOptional
  | readonlyType
  | requiredAfterOptional
  | optionalRest
  | labeledOptional
  | labeledRest
  | stringExpected
  | enumNumericName
  | enumComputedName
  | unmatchedClosingTag (name : String)
  | emptyAttributeValue
  | dashInTag
  | commaInContainer
  | typeTwiceInImport
  | typeTwiceInExport
  | typeImportBoth
  | deferNamed
  | deferDefault
  | sourceImport
  | attributeValue
  | attributeTwice (name : String)
  | exportString
  | exportReserved
  | exportSurrogate
  | unexpectedExport
deriving DecidableEq

namespace Flaw

def message : Flaw → String
  | unexpectedToken => "Unexpected token"
  | unexpectedEnd => "Unexpected end of file"
  | mergeConflict => "Encountered merge conflict marker"
  | expected wanted found => "Expected `" ++ wanted ++ "` but found `" ++ found ++ "`"
  | expectedEither separator close found =>
    "Expected `" ++ separator ++ "` or `" ++ close ++ "` but found `" ++ found ++ "`"
  | noSemicolon =>
    "Expected a semicolon or an implicit semicolon after a statement, but found none"
  | identifierExpected => "Identifier expected."
  | reservedWord word =>
    "Identifier expected. '" ++ word ++ "' is a reserved word that cannot be used here."
  | escapedKeyword => "Keywords cannot contain escape characters"
  | invalidCharacter c => "Invalid Character `" ++ c.toString ++ "`"
  | invalidNumberEnd => "Invalid characters after number"
  | invalidEscape => "Invalid escape sequence"
  | invalidUnicodeEscape => "Invalid Unicode escape sequence"
  | invalidTemplateEscape => "Bad escape sequence in untagged template literal"
  | unterminatedString => "Unterminated string"
  | unterminatedRegex => "Unterminated regular expression"
  | unterminatedComment => "Unterminated multiline comment"
  | regexFlag c => "Unexpected flag " ++ c.toString ++ " in regular expression literal"
  | regexFlagTwice c => "Flag " ++ c.toString ++ " is mentioned twice in regular expression literal"
  | regexFlagsTogether =>
    "The 'u' and 'v' regular expression flags cannot be enabled at the same time"
  | strayBrace => "Unexpected token. Did you mean `\x7b'\x7d'\x7d` or `&rbrace;`?"
  | strayAngle => "Unexpected token. Did you mean `\x7b'>'\x7d` or `&gt;`?"
  | invalidAssignment => "Cannot assign to this expression"
  | defaultOperator => "Only '=' operator can be used for specifying default value."
  | invalidRestArgument => "Invalid rest operator's argument."
  | spreadNotLast => "Spread must be last element"
  | restNotLast => "A rest parameter must be last in a parameter list"
  | restPatternNotLast => "A rest element must be last in a destructuring pattern"
  | restPatternComma => "A rest parameter or binding pattern may not have a trailing comma."
  | restInitializer => "A rest parameter cannot have an initializer"
  | restOptional => "A rest parameter cannot be optional."
  | restElementInitializer => "A rest element cannot have an initializer."
  | restElementName => "A rest element cannot have a property name."
  | restElementInvalid => "Invalid rest element"
  | missingConstInitializer => "Missing initializer in const declaration"
  | missingPatternInitializer => "Missing initializer in destructuring declaration"
  | optionalDeclaration => "Optional declaration is not allowed here"
  | definiteWithoutType =>
    "Declarations with definite assignment assertions must also have type annotations."
  | definiteInitializer =>
    "Declarations with initializers cannot also have definite assignment assertions."
  | usingPattern => "Using declarations may not have binding patterns."
  | usingInitializer => "Using declarations must have an initializer."
  | usingExport => "Using declarations cannot be exported directly."
  | usingForIn words =>
    "The left-hand side of a for...in statement cannot be an " ++ words ++ " declaration."
  | missingFunctionName => "Expected function name"
  | missingFunctionBody => "Expected function body"
  | missingCatch => "Missing catch or finally clause"
  | missingSwitchClause => "Expected switch clause"
  | newlineAfterThrow => "Illegal newline after throw"
  | returnOutsideFunction => "A 'return' statement can only be used within a function body."
  | yieldOutsideGenerator => "A 'yield' expression is only allowed in a generator body."
  | yieldIdentifier => "Cannot use `yield` as an identifier in a generator context"
  | awaitIdentifier => "Cannot use `await` as an identifier in an async context"
  | awaitOutsideAsync =>
    "`await` is only allowed within async functions and at the top levels of modules"
  | forAwaitNotOf => "await can only be used in conjunction with `for...of` statements"
  | forOfAsync => "The left-hand side of a `for...of` statement may not be `async`"
  | lexicalNested => "Lexical declaration cannot appear in a single-statement context"
  | classNested => "Invalid class declaration"
  | asyncNested => "Async functions can only be declared at the top level or inside a block"
  | generatorNested => "Generators can only be declared at the top level or inside a block"
  | unaryExponent => "Unexpected exponentiation expression"
  | mixedCoalesce => "Logical expressions and coalesce expressions cannot be mixed"
  | emptyParentheses => "Empty parenthesized expression"
  | parenthesesComma => "Parenthesized expressions may not have a trailing comma."
  | optionalChainName => "Identifier expected after '?.'"
  | optionalChainTemplate => "Tagged template expressions are not permitted in an optional chain"
  | newOptionalChain => "Optional chaining cannot appear in the callee of new expressions"
  | newDynamicImport => "Cannot use new with dynamic import"
  | importSpecifier => "import() requires a specifier."
  | importArity =>
    "Dynamic imports can only accept a module specifier and an optional set of attributes as arguments"
  | importMeta => "The only valid meta property for import is import.meta"
  | newTarget => "The only valid meta property for new is new.target"
  | unexpectedSuper => "'super' can only be used with function calls or in property accesses"
  | unexpectedPrivate => "Unexpected private identifier"
  | coverInitializer => "Invalid assignment in object literal"
  | newlineBeforeArrow => "Line terminator not permitted before arrow"
  | getterParameters => "A 'get' accessor must not have any formal parameters."
  | setterParameters => "A 'set' accessor must have exactly one parameter."
  | setterRest => "A 'set' accessor cannot have rest parameter."
  | setterInitializer => "A 'set' accessor cannot have an initializer."
  | setterType => "A 'set' accessor cannot have a return type annotation."
  | optionalParameterInitializer => "A parameter cannot have a question mark and an initializer."
  | parameterPropertyPattern => "A parameter property may not be declared using a binding pattern."
  | thisParameterArrow => "An arrow function cannot have a `this` parameter."
  | thisParameterConstructor => "A constructor cannot have a `this` parameter."
  | ambientImplementation => "An implementation cannot be declared in ambient contexts."
  | decoratorsHere => "Decorators are not valid here."
  | decoratorsTwice =>
    "Decorators may not appear after 'export' or 'export default' if they also appear before 'export'."
  | modifierTwice word => "'" ++ word ++ "' modifier already seen."
  | accessTwice => "Accessibility modifier already seen."
  | modifierOrder late early => "'" ++ late ++ "' modifier must precede '" ++ early ++ "' modifier."
  | modifierHere word => "'" ++ word ++ "' modifier cannot be used here."
  | modifierOnParameter word => "'" ++ word ++ "' modifier cannot appear on a parameter."
  | modifierOnMember word => "'" ++ word ++ "' modifier cannot appear on class elements of this kind."
  | modifierOnTypeMember word => "'" ++ word ++ "' modifier cannot appear on a type member."
  | modifierOnTypeParameter word => "'" ++ word ++ "' modifier cannot appear on a type parameter."
  | modifierOnIndex word => "'" ++ word ++ "' modifier cannot appear on an index signature."
  | modifierOnAccessor word =>
    "'accessor' modifier cannot be used with '" ++ word ++ "' modifier."
  | readonlyPlace =>
    "'readonly' modifier can only appear on a property declaration or index signature."
  | accessOnPrivate => "An accessibility modifier cannot be used with a private identifier."
  | constMember => "A class member cannot have the 'const' keyword."
  | singleExtends => "Classes can only extend a single class."
  | extendsTwice => "'extends' clause already seen"
  | implementsTwice => "'implements' clause already seen"
  | extendsLate => "'extends' clause must precede 'implements' clause"
  | interfaceImplements => "Interface declaration cannot have 'implements' clause."
  | interfaceExtends =>
    "An interface can only extend an identifier/qualified-name with optional type arguments."
  | constructorAccessor => "Constructor can't have get/set modifier"
  | constructorGenerator => "Constructor can't be a generator"
  | constructorAsync => "Constructor can't be an async method"
  | constructorTypeParameters => "Type parameters cannot appear on a constructor declaration"
  | constructorType => "Type annotation cannot appear on a constructor declaration."
  | fieldConstructor => "Classes can't have a field named 'constructor'"
  | privateConstructor => "Classes can't have an element named '#constructor'"
  | staticPrototype => "Classes may not have a static property named 'prototype'"
  | abstractImplementation name =>
    "Method '" ++ name ++ "' cannot have an implementation because it is marked abstract."
  | abstractAccessor name =>
    "Accessor '" ++ name ++ "' cannot have an implementation because it is marked abstract."
  | abstractInitializer name =>
    "Property '" ++ name ++ "' cannot have an initializer because it is marked abstract."
  | optionalAccessor => "An 'accessor' property cannot be declared optional."
  | optionalDefinite => "A property cannot be both optional and definite."
  | emptyTypeArguments => "Type argument list cannot be empty."
  | emptyTypeParameters => "Type parameter list cannot be empty."
  | indexParameters => "An index signature must have exactly one parameter."
  | indexOptional => "An index signature parameter cannot have a question mark."
  | readonlyType =>
    "'readonly' type modifier is only permitted on array and tuple literal types."
  | requiredAfterOptional => "A required element cannot follow an optional element."
  | optionalRest => "A tuple member cannot be both optional and rest."
  | labeledOptional =>
    "A labeled tuple element is declared as optional with a question mark after the name and before "
      ++ "the colon, rather than after the type."
  | labeledRest =>
    "A labeled tuple element is declared as rest with a '...' before the name, rather than before "
      ++ "the type."
  | stringExpected => "String literal expected."
  | enumNumericName => "An enum member cannot have a numeric name."
  | enumComputedName => "Computed property names are not allowed in enums."
  | unmatchedClosingTag name => "Expected corresponding JSX closing tag for '" ++ name ++ "'."
  | emptyAttributeValue => "JSX attributes must only be assigned a non-empty 'expression'."
  | dashInTag => "Identifiers in JSX cannot contain hyphens"
  | commaInContainer => "JSX expressions may not use the comma operator"
  | typeTwiceInImport =>
    "The 'type' modifier cannot be used on a named import when 'import type' is used on its import "
      ++ "statement."
  | typeTwiceInExport =>
    "The 'type' modifier cannot be used on a named export when 'export type' is used on its export "
      ++ "statement."
  | typeImportBoth =>
    "A type-only import can specify a default import or named bindings, but not both."
  | deferNamed => "Named imports are not allowed in a deferred import."
  | deferDefault => "Default imports are not allowed in a deferred import."
  | sourceImport => "Only a single default import is allowed in a source phase import."
  | attributeValue => "Only string literals are allowed as module attribute values."
  | attributeTwice name => "Identifier `" ++ name ++ "` has already been declared"
  | exportString => "A string literal cannot be used as an exported binding without `from`"
  | exportReserved => "A reserved word cannot be used as an exported binding without `from`"
  | exportSurrogate => "An export name cannot include a unicode lone surrogate"
  | unexpectedExport => "Unexpected export."

end Flaw

structure Fault where
  flaw : Flaw
  offset : Nat
deriving DecidableEq

end Rsx
