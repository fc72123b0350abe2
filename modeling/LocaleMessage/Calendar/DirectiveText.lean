import LocaleMessage.Calendar.Directive

/-!
Layouts written as text, where a percent sign and a letter stand for a directive. What needs a
time zone has no directive here.
-/

namespace LocaleMessage.Calendar

/-- The directive of a letter, for letters with one directive. -/
def directiveOf? (c : Char) : Option Directive :=
  [('Y', .field .year .zero), ('C', .field .century .zero), ('y', .field .yearOfCentury .zero),
    ('G', .field .weekYear .zero), ('g', .field .weekYearOfCentury .zero),
    ('q', .field .quarter .none), ('m', .field .month .zero), ('d', .field .day .zero),
    ('e', .field .day .space), ('j', .field .dayOfYear .zero),
    ('U', .field .weekFromSunday .zero), ('W', .field .weekFromMonday .zero),
    ('V', .field .week .zero), ('w', .field .daysFromSunday .none),
    ('u', .field .dayOfWeek .none), ('H', .field .hour .zero), ('k', .field .hour .space),
    ('I', .field .hourOfHalfDay .zero), ('l', .field .hourOfHalfDay .space),
    ('M', .field .minute .zero), ('S', .field .second .zero), ('f', .field .nanosecond .zero),
    ('s', .field .timestamp .none), ('b', .name .shortMonth), ('h', .name .shortMonth),
    ('B', .name .longMonth), ('a', .name .shortWeekday), ('A', .name .longWeekday),
    ('P', .name .lowerHalfDay), ('p', .name .upperHalfDay), ('%', .text ['%']),
    ('n', .text ['\n']), ('t', .text ['\t'])].lookup c

/-- Fields in the order of the letters, with a character between every two. -/
def fieldsBetween (between : Char) (letters : List Char) : Layout :=
  (letters.filterMap directiveOf?).intersperse (.text [between])

/-- The layout of a letter. Some letters stand for several directives. -/
def layoutOf? (c : Char) : Option Layout :=
  match c with
  | 'D' | 'x' => some (fieldsBetween '/' ['m', 'd', 'y'])
  | 'F' => some (fieldsBetween '-' ['Y', 'm', 'd'])
  | 'v' => some (fieldsBetween '-' ['e', 'b', 'Y'])
  | 'R' => some (fieldsBetween ':' ['H', 'M'])
  | 'T' | 'X' => some (fieldsBetween ':' ['H', 'M', 'S'])
  | 'r' => some (fieldsBetween ':' ['I', 'M', 'S'] ++ [.text [' '], .name .upperHalfDay])
  | 'c' => some (fieldsBetween ' ' ['a', 'b', 'e'] ++ .text [' '] ::
      (fieldsBetween ':' ['H', 'M', 'S'] ++ [.text [' '], .field .year .zero]))
  | c => (directiveOf? c).map ([·])

/-- The padding that a character between the percent sign and the letter asks for. -/
def paddingOf? (c : Char) : Option Padding :=
  match c with
  | '-' => some .none
  | '0' => some .zero
  | '_' => some .space
  | _ => none

/-- How many digits of a fraction a character asks for. -/
def fractionWidth? (c : Char) : Option Nat :=
  match c with
  | '3' => some 3
  | '6' => some 6
  | '9' => some 9
  | _ => none

/-- Reads what follows a percent sign, and leaves what follows that. Only fields in digits take
another padding. -/
def readDirective : List Char → Option (Layout × List Char)
  | '.' :: 'f' :: rest => some ([.fraction], rest)
  | '.' :: width :: 'f' :: rest =>
    (fractionWidth? width).map fun digits => ([.fractionDigits digits true], rest)
  | c :: rest =>
    match paddingOf? c, fractionWidth? c, rest with
    | some padding, _, letter :: rest =>
      match directiveOf? letter with
      | some (.field f _) => some ([.field f padding], rest)
      | _ => none
    | some _, _, [] => none
    | none, some digits, 'f' :: rest => some ([.fractionDigits digits false], rest)
    | none, some _, _ => none
    | none, none, rest => (layoutOf? c).map fun layout => (layout, rest)
  | [] => none

/-- Reads a layout of at most `bound` characters and directives. -/
def readLayout (bound : Nat) (text : List Char) : Option Layout :=
  match bound, text with
  | _, [] => some []
  | 0, _ => none
  | bound + 1, '%' :: rest => do
    let (directives, rest) ← readDirective rest
    return directives ++ (← readLayout bound rest)
  | bound + 1, c :: rest => return .text [c] :: (← readLayout bound rest)

/-- The layout that a text stands for, if all its directives are known. -/
def Layout.ofText? (text : List Char) : Option Layout :=
  readLayout text.length text

/-- The letter that stands for a field, with one padding or another. -/
def Field.letter : Field → Char
  | year => 'Y'
  | century => 'C'
  | yearOfCentury => 'y'
  | weekYear => 'G'
  | weekYearOfCentury => 'g'
  | quarter => 'q'
  | month => 'm'
  | day => 'd'
  | dayOfYear => 'j'
  | weekFromSunday => 'U'
  | weekFromMonday => 'W'
  | week => 'V'
  | daysFromSunday => 'w'
  | dayOfWeek => 'u'
  | hour => 'H'
  | hourOfHalfDay => 'I'
  | minute => 'M'
  | second => 'S'
  | nanosecond => 'f'
  | timestamp => 's'

/-- The letter that stands for a name. -/
def Name.letter : Name → Char
  | shortMonth => 'b'
  | longMonth => 'B'
  | shortWeekday => 'a'
  | longWeekday => 'A'
  | lowerHalfDay => 'P'
  | upperHalfDay => 'p'

/-- The character that asks for a padding. -/
def Padding.mark : Padding → Char
  | none => '-'
  | zero => '0'
  | space => '_'

/-- Writes a directive as text. A percent sign that is copied is written twice, and a padding is
asked for only where the letter alone has another. -/
def Directive.toText : Directive → List Char
  | text copied => copied.flatMap fun c => if c = '%' then ['%', '%'] else [c]
  | field f padding =>
    if directiveOf? f.letter = some (.field f padding) then ['%', f.letter]
    else ['%', padding.mark, f.letter]
  | name n => ['%', n.letter]
  | fraction => ['%', '.', 'f']
  | fractionDigits digits point =>
    '%' :: ((if point then ['.'] else []) ++ decimalDigits digits ++ ['f'])

/-- Writes a layout as text. -/
def Layout.toText (layout : Layout) : List Char :=
  layout.flatMap Directive.toText

end LocaleMessage.Calendar
