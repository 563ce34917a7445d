import StyleObjects.Pattern.CharSet
import StyleObjects.Unicode.Script

/-!
# Character sets by name

Sets that Unicode names: general categories, scripts and properties.  Case, blanks, underscores and
dashes in a name do not matter, nor does a leading `is`.
-/

namespace StyleObjects.CharSet

/-! ## Loose names -/

/-- A name without blanks, underscores, dashes and characters outside of ASCII, in small letters. -/
def squeeze (name : List Char) : List Char :=
  (name.filter fun c => ascii c && !ofString " _-" c).map fun c =>
    if upper c then otherCase c else c

/-- A name in the form in which names are compared.  A lone `c` after a leading `is` is the name of
a property of its own. -/
def looseName (name : List Char) : List Char :=
  match name with
  | a :: b :: rest =>
    if ofString "iI" a && ofString "sS" b then
      if squeeze rest = ['c'] then "isc".toList else squeeze rest
    else squeeze name
  | _ => squeeze name

/-! ## General categories -/

/-- Groups of general categories, with the names of each. -/
def categoryGroups : List (List String × List Unicode.Category) :=
  [(["Lu", "Uppercase_Letter"], [.uppercaseLetter]),
  (["Ll", "Lowercase_Letter"], [.lowercaseLetter]),
  (["Lt", "Titlecase_Letter"], [.titlecaseLetter]),
  (["LC", "Cased_Letter"], [.uppercaseLetter, .lowercaseLetter, .titlecaseLetter]),
  (["Lm", "Modifier_Letter"], [.modifierLetter]),
  (["Lo", "Other_Letter"], [.otherLetter]),
  (["L", "Letter"], Unicode.letterCategories),
  (["Mn", "Nonspacing_Mark"], [.nonspacingMark]),
  (["Mc", "Spacing_Mark"], [.spacingMark]),
  (["Me", "Enclosing_Mark"], [.enclosingMark]),
  (["M", "Mark", "Combining_Mark"], Unicode.markCategories),
  (["Nd", "Decimal_Number", "digit"], [.decimalNumber]),
  (["Nl", "Letter_Number"], [.letterNumber]),
  (["No", "Other_Number"], [.otherNumber]),
  (["N", "Number"], Unicode.numberCategories),
  (["Pc", "Connector_Punctuation"], [.connectorPunctuation]),
  (["Pd", "Dash_Punctuation"], [.dashPunctuation]),
  (["Ps", "Open_Punctuation"], [.openPunctuation]),
  (["Pe", "Close_Punctuation"], [.closePunctuation]),
  (["Pi", "Initial_Punctuation"], [.initialPunctuation]),
  (["Pf", "Final_Punctuation"], [.finalPunctuation]),
  (["Po", "Other_Punctuation"], [.otherPunctuation]),
  (["P", "Punctuation", "punct"], [.connectorPunctuation, .dashPunctuation, .openPunctuation,
    .closePunctuation, .initialPunctuation, .finalPunctuation, .otherPunctuation]),
  (["Sm", "Math_Symbol"], [.mathSymbol]),
  (["Sc", "Currency_Symbol"], [.currencySymbol]),
  (["Sk", "Modifier_Symbol"], [.modifierSymbol]),
  (["So", "Other_Symbol"], [.otherSymbol]),
  (["S", "Symbol"], [.mathSymbol, .currencySymbol, .modifierSymbol, .otherSymbol]),
  (["Zs", "Space_Separator"], [.spaceSeparator]),
  (["Zl", "Line_Separator"], [.lineSeparator]),
  (["Zp", "Paragraph_Separator"], [.paragraphSeparator]),
  (["Z", "Separator"], [.spaceSeparator, .lineSeparator, .paragraphSeparator]),
  (["Cc", "Control", "cntrl"], [.control]),
  (["Cf", "Format"], [.format]),
  (["Co", "Private_Use"], [.privateUse]),
  (["Cn", "Unassigned"], [.unassigned]),
  (["C", "Other"], [.control, .format, .privateUse, .unassigned])]

/-- The first entry of a list that has a given loose name. -/
def findNamed? {α : Type} (entries : List (List String × α)) (loose : List Char) : Option α :=
  (entries.find? fun e => e.1.any fun name => looseName name.toList == loose).map (·.2)

/-- The general category, or group of categories, of a loose name. -/
def category? (loose : List Char) : Option CharSet :=
  if loose = "any".toList then some all
  else if loose = "assigned".toList then some (compl Unicode.Category.unassigned.contains)
  else if loose = "ascii".toList then some ascii
  else (findNamed? categoryGroups loose).map Unicode.inAny

/-- The script of a loose name. -/
def script? (loose : List Char) : Option CharSet :=
  (Unicode.scripts.find? fun s => s.names.any fun name => looseName name.toList == loose).map
    (·.contains)

/-! ## Names in patterns -/

/-- The set of a name: a property, a general category or a script. -/
def named? (name : List Char) : Option CharSet :=
  let loose := looseName name
  (findNamed? Unicode.properties loose).or ((category? loose).or (script? loose))

/-- The set of a value of a property; general categories and scripts have values. -/
def valued? (name value : List Char) : Option CharSet :=
  let property := looseName name
  if ["gc", "generalcategory"].contains (String.ofList property) then category? (looseName value)
  else if ["sc", "script"].contains (String.ofList property) then script? (looseName value)
  else Option.none

end StyleObjects.CharSet
