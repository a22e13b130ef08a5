import CodeAtlas.Training.Run

/-! What was done in a training, in JSON. -/

namespace CodeAtlas.Training

mutual

def Layer.toJson : Layer → Json
  | .dropout rate => .array [.string "Dropout", .float rate]
  | .linear i o => .array [.string "Linear", .int i, .int o]
  | .relu => .array [.string "ReLU"]
  | .sequential ls => .array (.string "Sequential" :: layersJson ls)

def layersJson : List Layer → List Json
  | [] => []
  | l :: rest => l.toJson :: layersJson rest

end

/-- A step of drawing: its name, its arguments and a label. -/
def plotEntry (name : String) (args : List Json) (label : Json) : Json :=
  .array [.string "plot", .string name, .array args, label]

def Plot.toJson : Plot → Json
  | .figure => plotEntry "figure" [] .null
  | .curve losses label => plotEntry "plot" [.array (losses.map .float)] (.string label)
  | .title t => plotEntry "title" [.string t] .null
  | .xlabel t => plotEntry "xlabel" [.string t] .null
  | .ylabel t => plotEntry "ylabel" [.string t] .null
  | .legend => plotEntry "legend" [] .null
  | .grid => plotEntry "grid" [.bool true] .null
  | .tightLayout => plotEntry "tight_layout" [] .null
  | .savefig f => plotEntry "savefig" [.string f] .null
  | .close => plotEntry "close" [] .null

/-- How texts are cut into tokens for training. -/
def tokenOptions : Json :=
  .object [("padding", .bool true), ("truncation", .bool true), ("max_length", .nat maxTokens),
    ("return_tensors", .string "pt")]

/-- How the network is written out: its inputs and output, of which any number can go
through it at a time. -/
def exportOptions : Json :=
  let axis := Json.array [.array [.int 0, .string "batch"]]
  .object [("input_names", .ofStrings ["input_ids", "attention_mask"]),
    ("output_names", .ofStrings ["logits"]),
    ("dynamic_axes", .object [("input_ids", axis), ("attention_mask", axis), ("logits", axis)]),
    ("opset_version", .int 17)]

def Event.toJson : Event → Json
  | .backbone => .array [.string "backbone", .string backboneName, .string "float32", .bool true]
  | .layer l => .array [.string "layer", l.toJson]
  | .optimizer names rate => .array [.string "adamw", .ofStrings names, .float rate]
  | .trainMode => .ofStrings ["train"]
  | .evalMode => .ofStrings ["eval"]
  | .zeroGrad => .ofStrings ["zero_grad"]
  | .backward loss => .array [.string "backward", .float loss]
  | .step => .ofStrings ["step"]
  | .update => .ofStrings ["update"]
  | .save => .ofStrings ["save", "state", stateFile]
  | .loadState => .ofStrings ["load_state", stateFile]
  | .plot p => p.toJson
  | .tokenize texts => .array [.string "tokenize", .ofStrings texts, tokenOptions]
  | .labels ns => .array [.string "tensor", .array (ns.map .nat), .string "long"]
  | .split total parts => .array [.string "split", .nat total, .array (parts.map .nat)]
  | .loader n size shuffle => .array [.string "loader", .nat n, .nat size, .bool shuffle]
  | .randomIds =>
    .array [.string "randint", .array [.int 0, .int 1000, .array [.int 1, .nat maxTokens]], .null]
  | .fullMask => .array [.string "ones", .array [.array [.int 1, .nat maxTokens]], .string "long"]
  | .export_ =>
    .array [.string "export", .string "CodeClassifier", .ofStrings ["randint", "ones"],
      .string "code_classifier.onnx", exportOptions]

end CodeAtlas.Training
