import CodeAtlas.Text.Casing
import CodeAtlas.Training.Dice

/-! Made-up Java snippets for training: plain ones, and ones in the manner of web
services. Their names are chosen by dice. -/

namespace CodeAtlas.Training

/-- A text with the language that it is an example of. -/
structure Sample where
  text : String
  label : String
  deriving Repr, DecidableEq

/-- A name with a small first letter. -/
def small (name : String) : String :=
  match name.toList with
  | [] => ""
  | c :: cs => Text.lower (String.ofList [c]) ++ String.ofList cs

/-! ### Plain snippets -/

def classNames : List String := ["Test", "Calculator", "LoopExample", "MyClass", "Example"]

def variableNames : List String := ["x", "y", "sum", "total", "count", "result", "i", "j"]

def methodNames : List String := ["add", "multiply", "compute", "process", "calculate", "run"]

def loopLimits : List String := ["5", "10", "20"]

/-- A loop that adds up. -/
def loopSnippet (cls name limit : String) : String :=
  "public class " ++ cls ++
    " \x7b\n    public static void main(String[] args) \x7b\n        int " ++ name ++
    " = 0;\n        for (int i = 0; i < " ++ limit ++ "; i++) \x7b\n            " ++ name ++
    " += i;\n        \x7d\n        System.out.println(" ++ name ++ ");\n    \x7d\n\x7d"

/-- A class with a function of two numbers. -/
def functionSnippet (cls method a b : String) : String :=
  "public class " ++ cls ++ " \x7b\n    public int " ++ method ++ "(int " ++ a ++ ", int " ++ b ++
    ") \x7b\n        return " ++ a ++ " + " ++ b ++ ";\n    \x7d\n\x7d"

/-- A choice between two outputs. -/
def branchSnippet (cls name : String) (value : Nat) : String :=
  "public class " ++ cls ++
    " \x7b\n    public static void main(String[] args) \x7b\n        int " ++ name ++ " = " ++
    toString value ++ ";\n        if (" ++ name ++
    " % 2 == 0) \x7b\n            System.out.println(\"Even\");\n" ++
    "        \x7d else \x7b\n            System.out.println(\"Odd\");\n        \x7d\n" ++
    "    \x7d\n\x7d"

/-- A loop over an array. -/
def arraySnippet (cls name : String) : String :=
  "public class " ++ cls ++ " \x7b\n    public static void main(String[] args) \x7b\n" ++
    "        int[] arr = \x7b1,2,3,4,5\x7d;\n        for (int " ++ name ++
    " : arr) \x7b\n            System.out.println(" ++ name ++ ");\n        \x7d\n    \x7d\n\x7d"

/-- A loop inside a loop. -/
def nestedSnippet (cls : String) : String :=
  "public class " ++ cls ++ " \x7b\n    public static void main(String[] args) \x7b\n" ++
    "        for (int i=0; i<3; i++) \x7b\n            for (int j=0; j<2; j++) \x7b\n" ++
    "                System.out.println(i*j);\n            \x7d\n        \x7d\n" ++
    "    \x7d\n\x7d"

/-- A plain snippet. -/
def generalSnippet : Roll String := do
  match ← between 0 4 with
  | 0 => pure (loopSnippet (← choose classNames) (← choose variableNames) (← choose loopLimits))
  | 1 =>
    let cls ← choose classNames
    let method ← choose methodNames
    let (a, b) ← chooseTwo variableNames
    pure (functionSnippet cls method a b)
  | 2 => pure (branchSnippet (← choose classNames) (← choose variableNames) (← between 0 10))
  | 3 => pure (arraySnippet (← choose classNames) (← choose variableNames))
  | _ => pure (nestedSnippet (← choose classNames))

/-! ### Snippets of web services -/

def controllerNames : List String := ["UserController", "ProductController", "OrderController"]

def serviceNames : List String := ["UserService", "ProductService", "OrderService"]

def repositoryNames : List String := ["UserRepository", "ProductRepository", "OrderRepository"]

def entityNames : List String := ["User", "Product", "Order"]

/-- A controller that lists entities. -/
def listingSnippet (controller entity : String) : String :=
  "@RestController\n@RequestMapping(\"/api/" ++ small entity ++ "s\")\npublic class " ++
    controller ++ " \x7b\n\n    @Autowired\n    private " ++ entity ++ "Service " ++
    small entity ++ "Service;\n\n    @GetMapping\n    public List<" ++ entity ++ "> getAll" ++
    entity ++ "s() \x7b\n        return " ++ small entity ++ "Service.getAll" ++ entity ++
    "s();\n    \x7d\n\x7d"

/-- A service on a repository. -/
def serviceSnippet (service repository entity : String) : String :=
  "@Service\npublic class " ++ service ++ " \x7b\n\n    @Autowired\n    private " ++ repository ++
    " " ++ small repository ++ ";\n\n    public List<" ++ entity ++ "> getAll" ++ entity ++
    "s() \x7b\n        return " ++ small repository ++ ".findAll();\n    \x7d\n\x7d"

/-- A repository of entities. -/
def repositorySnippet (repository entity : String) : String :=
  "@Repository\npublic interface " ++ repository ++ " extends JpaRepository<" ++ entity ++
    ", Long> \x7b\n\x7d"

/-- A configuration with a bean. -/
def configurationSnippet : String :=
  "@Configuration\npublic class AppConfig \x7b\n\n    @Bean\n" ++
    "    public String exampleBean() \x7b\n        return \"example\";\n    \x7d\n\x7d"

/-- A controller that makes an entity. -/
def creationSnippet (controller entity : String) : String :=
  "@RestController\n@RequestMapping(\"/api/" ++ small entity ++ "s\")\npublic class " ++
    controller ++ " \x7b\n\n    @PostMapping\n    public " ++ entity ++ " create" ++ entity ++
    "(@RequestBody " ++ entity ++ " " ++ small entity ++
    ") \x7b\n        // Imagine saving to service\n        return " ++ small entity ++
    ";\n    \x7d\n\x7d"

/-- A snippet of a web service. -/
def springSnippet : Roll String := do
  match ← between 0 4 with
  | 0 => pure (listingSnippet (← choose controllerNames) (← choose entityNames))
  | 1 =>
    pure (serviceSnippet (← choose serviceNames) (← choose repositoryNames) (← choose entityNames))
  | 2 => pure (repositorySnippet (← choose repositoryNames) (← choose entityNames))
  | 3 => pure configurationSnippet
  | _ => pure (creationSnippet (← choose controllerNames) (← choose entityNames))

/-- Several snippets, all of them Java. -/
def javaSamples (snippet : Roll String) (count : Nat) : Roll (List Sample) := do
  pure ((← rollMany snippet count).map fun text => ⟨text, "java"⟩)

end CodeAtlas.Training
