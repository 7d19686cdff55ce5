import PineAssist.Catalog.Basic

/-!
# The built-in catalogue

Every built-in identifier that the language tools document: functions by subject, then series and
constants, then keywords, then types.
-/

namespace PineAssist.Catalog

/-- Entry of a function, with the places of its template between angle quotes. -/
def functionEntry (name signature documentation marked : String) : Entry :=
  ⟨name, .function, signature, documentation, some (snippet marked)⟩

/-- Entry that is inserted by its bare name. -/
def plainEntry (category : Category) (name signature documentation : String) : Entry :=
  ⟨name, category, signature, documentation, none⟩

/-- Technical analysis. -/
def analysisFunctions : List Entry := [
  functionEntry "ta.sma"
    "ta.sma(source, length) -> series float"
    "Simple Moving Average. Calculates the average of the last length values of source."
    "ta.sma(‹source›, ‹length›)",
  functionEntry "ta.ema"
    "ta.ema(source, length) -> series float"
    ("Exponential Moving Average. Calculates the exponential moving average of source over " ++
      "length bars.")
    "ta.ema(‹source›, ‹length›)",
  functionEntry "ta.rsi"
    "ta.rsi(source, length) -> series float"
    ("Relative Strength Index. Returns the RSI value, a momentum oscillator that measures " ++
      "the speed and magnitude of price changes.")
    "ta.rsi(‹source›, ‹length›)",
  functionEntry "ta.macd"
    "ta.macd(source, fastlen, slowlen, siglen) -> [macdLine, signalLine, histLine]"
    ("MACD (Moving Average Convergence Divergence). Returns a tuple with MACD line, signal " ++
      "line, and histogram.")
    "[‹macdLine›, ‹signalLine›, ‹histLine›] = ta.macd(‹source›, ‹12›, ‹26›, ‹9›)",
  functionEntry "ta.bb"
    "ta.bb(source, length, mult) -> [upper, middle, lower]"
    "Bollinger Bands. Returns upper, middle, and lower bands."
    "[‹upper›, ‹middle›, ‹lower›] = ta.bb(‹source›, ‹length›, ‹mult›)",
  functionEntry "ta.atr"
    "ta.atr(length) -> series float"
    "Average True Range. Measures market volatility."
    "ta.atr(‹length›)",
  functionEntry "ta.stoch"
    "ta.stoch(source, high, low, length) -> series float"
    "Stochastic Oscillator. Returns the stochastic value."
    "ta.stoch(‹source›, ‹high›, ‹low›, ‹length›)",
  functionEntry "ta.adx"
    "ta.adx(length) -> series float"
    "Average Directional Index. Measures trend strength."
    "ta.adx(‹length›)",
  functionEntry "ta.pivothigh"
    "ta.pivothigh(high, leftBars, rightBars) -> series float"
    "Pivot High. Returns the value of the highest high over leftBars and rightBars bars."
    "ta.pivothigh(‹high›, ‹leftBars›, ‹rightBars›)",
  functionEntry "ta.pivotlow"
    "ta.pivotlow(low, leftBars, rightBars) -> series float"
    "Pivot Low. Returns the value of the lowest low over leftBars and rightBars bars."
    "ta.pivotlow(‹low›, ‹leftBars›, ‹rightBars›)",
  functionEntry "ta.cross"
    "ta.cross(series1, series2) -> series bool"
    "Cross. Returns true when series1 crosses series2."
    "ta.cross(‹series1›, ‹series2›)",
  functionEntry "ta.crossover"
    "ta.crossover(series1, series2) -> series bool"
    "Crossover. Returns true when series1 crosses above series2."
    "ta.crossover(‹series1›, ‹series2›)",
  functionEntry "ta.crossunder"
    "ta.crossunder(series1, series2) -> series bool"
    "Crossunder. Returns true when series1 crosses below series2."
    "ta.crossunder(‹series1›, ‹series2›)",
  functionEntry "ta.highest"
    "ta.highest(source, length) -> series float"
    "Highest value of source over the last length bars."
    "ta.highest(‹source›, ‹length›)",
  functionEntry "ta.lowest"
    "ta.lowest(source, length) -> series float"
    "Lowest value of source over the last length bars."
    "ta.lowest(‹source›, ‹length›)",
  functionEntry "ta.change"
    "ta.change(source, length) -> series float"
    "Difference between the current value of source and its value length bars ago."
    "ta.change(‹source›, ‹1›)"]

/-- Arithmetic on series. -/
def mathFunctions : List Entry := [
  functionEntry "math.abs"
    "math.abs(value) -> series float"
    "Absolute value."
    "math.abs(‹value›)",
  functionEntry "math.max"
    "math.max(value1, value2) -> series float"
    "Maximum of two values."
    "math.max(‹value1›, ‹value2›)",
  functionEntry "math.min"
    "math.min(value1, value2) -> series float"
    "Minimum of two values."
    "math.min(‹value1›, ‹value2›)",
  functionEntry "math.round"
    "math.round(value) -> series float"
    "Round to nearest integer."
    "math.round(‹value›)",
  functionEntry "math.floor"
    "math.floor(value) -> series float"
    "Round down to nearest integer."
    "math.floor(‹value›)",
  functionEntry "math.ceil"
    "math.ceil(value) -> series float"
    "Round up to nearest integer."
    "math.ceil(‹value›)",
  functionEntry "math.sqrt"
    "math.sqrt(value) -> series float"
    "Square root."
    "math.sqrt(‹value›)",
  functionEntry "math.pow"
    "math.pow(base, exponent) -> series float"
    "Power function."
    "math.pow(‹base›, ‹exponent›)",
  functionEntry "math.log"
    "math.log(value) -> series float"
    "Natural logarithm."
    "math.log(‹value›)"]

/-- Strings. -/
def stringFunctions : List Entry := [
  functionEntry "str.tostring"
    "str.tostring(value, format) -> series string"
    "Convert value to string with optional format."
    "str.tostring(‹value›, \"‹#.##›\")",
  functionEntry "str.tonumber"
    "str.tonumber(string) -> series float"
    "Convert string to number."
    "str.tonumber(‹string›)",
  functionEntry "str.format"
    "str.format(format, ...args) -> series string"
    "Format string with arguments."
    "str.format(\"‹format›\", ‹arg1›, ‹arg2›)",
  functionEntry "str.length"
    "str.length(string) -> series int"
    "Number of characters in the string."
    "str.length(‹string›)"]

/-- Arrays. -/
def arrayFunctions : List Entry := [
  functionEntry "array.new"
    "array.new<type>(size) -> array"
    "Create a new array."
    "array.new<‹type›>(‹›)",
  functionEntry "array.push"
    "array.push(array, value) -> void"
    "Push value to array."
    "array.push(‹array›, ‹value›)",
  functionEntry "array.pop"
    "array.pop(array) -> type"
    "Remove and return the last element of array."
    "array.pop(‹array›)",
  functionEntry "array.get"
    "array.get(array, index) -> type"
    "Get value from array at index."
    "array.get(‹array›, ‹index›)",
  functionEntry "array.size"
    "array.size(array) -> int"
    "Get array size."
    "array.size(‹array›)"]

/-- Data of other symbols. -/
def requestFunctions : List Entry := [
  functionEntry "request.security"
    "request.security(symbol, timeframe, expression) -> series"
    "Request security data from different symbol/timeframe."
    "request.security(‹syminfo.tickerid›, \"‹timeframe›\", ‹expression›)"]

/-- Declarations of what a script is. -/
def scriptDeclarations : List Entry := [
  functionEntry "indicator"
    "indicator(title, shorttitle, overlay) -> void"
    "Declare the script as an indicator."
    "indicator(\"‹Title›\", overlay=‹true›)",
  functionEntry "strategy"
    "strategy(title, shorttitle, overlay, initial_capital) -> void"
    "Declare the script as a strategy."
    "strategy(\"‹Title›\", overlay=‹true›)"]

/-- Plots and drawings. -/
def drawingFunctions : List Entry := [
  functionEntry "plot"
    "plot(series, title, color, linewidth) -> plot"
    "Plot a series on the chart."
    "plot(‹series›, title=\"‹Title›\", color=‹color.blue›, linewidth=‹1›)",
  functionEntry "plotshape"
    "plotshape(condition, title, location, color, style, size) -> plot"
    "Plot shapes on the chart."
    ("plotshape(‹condition›, title=\"‹Title›\", location=location.‹belowbar›, " ++
      "color=‹color.red›, style=shape.‹triangleup›, size=‹size.small›)"),
  functionEntry "label.new"
    "label.new(x, y, text, color, textcolor, style) -> label"
    "Create a new label."
    ("label.new(‹x›, ‹y›, \"‹text›\", color=‹color.blue›, textcolor=‹color.white›, " ++
      "style=label.style_‹label_up›)"),
  functionEntry "line.new"
    "line.new(x1, y1, x2, y2, color, width, extend) -> line"
    "Create a new line."
    "line.new(‹x1›, ‹y1›, ‹x2›, ‹y2›, color=‹color.blue›, width=‹1›, extend=extend.‹none›)",
  functionEntry "box.new"
    "box.new(left, top, right, bottom, border_color, bgcolor) -> box"
    "Create a new box."
    ("box.new(‹left›, ‹top›, ‹right›, ‹bottom›, border_color=‹color.blue›, " ++
      "bgcolor=‹color.new(color.blue, 80)›)")]

/-- Inputs that the user of a script sets. -/
def inputFunctions : List Entry := [
  functionEntry "input.bool"
    "input.bool(defval, title, group, tooltip) -> input bool"
    "Create a boolean input."
    "input.bool(‹true›, \"‹Label›\", group=\"‹Group›\")",
  functionEntry "input.float"
    "input.float(defval, title, minval, maxval, step, group, tooltip) -> input float"
    "Create a float input."
    "input.float(‹0.0›, \"‹Label›\", minval=‹0.0›, maxval=‹100.0›, step=‹0.1›, group=\"‹Group›\")",
  functionEntry "input.int"
    "input.int(defval, title, minval, maxval, step, group, tooltip) -> input int"
    "Create an integer input."
    "input.int(‹14›, \"‹Label›\", minval=‹1›, maxval=‹100›, group=\"‹Group›\")",
  functionEntry "input.string"
    "input.string(defval, title, group, tooltip) -> input string"
    "Create a string input."
    "input.string(\"‹default›\", \"‹Label›\", group=\"‹Group›\")",
  functionEntry "input.color"
    "input.color(defval, title, group, tooltip) -> input color"
    "Create a color input."
    "input.color(color.new(color.‹blue›, ‹0›), \"‹Label›\", group=\"‹Group›\")",
  functionEntry "input.source"
    "input.source(defval, title, group, tooltip) -> series float"
    "Create a price source input."
    "input.source(‹close›, \"‹Source›\")"]

/-- Orders of a strategy. -/
def orderFunctions : List Entry := [
  functionEntry "strategy.entry"
    "strategy.entry(id, direction, qty, when) -> void"
    "Strategy entry order."
    "strategy.entry(\"‹Entry ID›\", strategy.‹long›, qty=‹1›, when=‹condition›)",
  functionEntry "strategy.exit"
    "strategy.exit(id, from_entry, profit, loss) -> void"
    "Strategy exit order."
    "strategy.exit(\"‹Exit ID›\", from_entry=\"‹Entry ID›\", profit=‹100›, loss=‹50›)",
  functionEntry "strategy.close"
    "strategy.close(id, when) -> void"
    "Close strategy position."
    "strategy.close(\"‹Entry ID›\", when=‹condition›)"]

/-- Alerts. -/
def alertFunctions : List Entry := [
  functionEntry "alert"
    "alert(message, freq) -> void"
    "Create an alert."
    "alert(\"‹Message›\", alert.freq_‹once_per_bar›)",
  functionEntry "alertcondition"
    "alertcondition(condition, title, message) -> void"
    "Create an alert condition."
    "alertcondition(‹condition›, title=\"‹Alert Title›\", message=\"‹Alert Message›\")"]

/-- Colours and missing values. -/
def otherFunctions : List Entry := [
  functionEntry "color.new"
    "color.new(color, transparency) -> color"
    "Create a new color with transparency (0-100)."
    "color.new(‹color.blue›, ‹0›)",
  functionEntry "nz"
    "nz(value, replacement) -> series"
    "Replace NA values with replacement value."
    "nz(‹value›, ‹0›)"]

/-- Series and constants. -/
def values : List Entry := [
  plainEntry .value "open" "series float" "Opening price of the current bar.",
  plainEntry .value "high" "series float" "Highest price of the current bar.",
  plainEntry .value "low" "series float" "Lowest price of the current bar.",
  plainEntry .value "close" "series float" "Closing price of the current bar.",
  plainEntry .value "volume" "series int" "Volume of the current bar.",
  plainEntry .value "time" "series int" "Unix timestamp of the current bar.",
  plainEntry .value "timenow" "int" "Current time as Unix timestamp.",
  plainEntry .value "bar_index" "series int" "Index of the current bar (zero-based).",
  plainEntry .value "syminfo.ticker" "string" "Ticker symbol of the current chart.",
  plainEntry .value "syminfo.tickerid" "string" "Full ticker ID including exchange.",
  plainEntry .value "syminfo.prefix" "string" "Exchange prefix.",
  plainEntry .value "syminfo.root" "string" "Root symbol without exchange.",
  plainEntry .value "syminfo.basecurrency" "string" "Base currency of the symbol.",
  plainEntry .value "syminfo.currency" "string" "Quote currency of the symbol."]

/-- Reserved words. -/
def keywords : List Entry := [
  plainEntry .keyword "if" "keyword" "Conditional statement.",
  plainEntry .keyword "else" "keyword" "Else clause.",
  plainEntry .keyword "elseif" "keyword" "Else-if clause.",
  plainEntry .keyword "for" "keyword" "For loop.",
  plainEntry .keyword "while" "keyword" "While loop.",
  plainEntry .keyword "var" "keyword" "Variable declaration that persists across bars.",
  plainEntry .keyword "varip" "keyword"
    "Variable declaration that persists across bars and repaints.",
  plainEntry .keyword "function" "keyword" "Function declaration.",
  plainEntry .keyword "return" "keyword" "Return from function.",
  plainEntry .keyword "true" "keyword" "Boolean true.",
  plainEntry .keyword "false" "keyword" "Boolean false.",
  plainEntry .keyword "na" "keyword" "Not available value.",
  plainEntry .keyword "and" "keyword" "Logical AND operator.",
  plainEntry .keyword "or" "keyword" "Logical OR operator.",
  plainEntry .keyword "not" "keyword" "Logical NOT operator."]

/-- Types. -/
def types : List Entry := [
  plainEntry .typeName "int" "type" "Integer type.",
  plainEntry .typeName "float" "type" "Floating-point number type.",
  plainEntry .typeName "bool" "type" "Boolean type.",
  plainEntry .typeName "color" "type" "Color type.",
  plainEntry .typeName "string" "type" "String type.",
  plainEntry .typeName "array" "type" "Array type.",
  plainEntry .typeName "matrix" "type" "Matrix type.",
  plainEntry .typeName "map" "type" "Map type.",
  plainEntry .typeName "line" "type" "Line object type.",
  plainEntry .typeName "label" "type" "Label object type.",
  plainEntry .typeName "box" "type" "Box object type.",
  plainEntry .typeName "table" "type" "Table object type."]

/-- The catalogue of the language itself. -/
def builtin : Catalog where
  entries := analysisFunctions ++ mathFunctions ++ stringFunctions ++ arrayFunctions ++
    requestFunctions ++ scriptDeclarations ++ drawingFunctions ++ inputFunctions ++
    orderFunctions ++ alertFunctions ++ otherFunctions ++
    values ++ keywords ++ types

end PineAssist.Catalog
