import Reindex.Command.Options

namespace Reindex.Command.Topic

def required : String := "search-deps --schema <SCHEMA> --indexes <INDEXES>"

def lines : Topic → List String
  | general =>
    ["Inspect search index dependencies compiled from index definitions", "",
      "Usage: search-deps [OPTIONS] --schema <SCHEMA> --indexes <INDEXES> <COMMAND>", "",
      "Commands:",
      "  inspect  Show index configurations and tracked entities",
      "  update   Root documents to reindex after properties of an entity changed",
      "  delete   Root documents to reindex after an entity instance was deleted",
      "  help     Print this message or the help of the given subcommand(s)", "",
      "Options:",
      "      --schema <SCHEMA>    Schema YAML file",
      "      --indexes <INDEXES>  Index definitions YAML file",
      "      --config <CONFIG>    Engine configuration YAML file",
      "      --format <FORMAT>    Output format [default: text] [possible values: text, json]",
      "  -h, --help               Print help"]
  | inspect =>
    ["Show index configurations and tracked entities", "",
      "Usage: " ++ required ++ " inspect", "",
      "Options:",
      "  -h, --help  Print help"]
  | update =>
    ["Root documents to reindex after properties of an entity changed", "",
      "Usage: " ++ required ++ " update --entity <ENTITY> --property <PROPERTIES>", "",
      "Options:",
      "  -e, --entity <ENTITY>        Changed entity type",
      "  -p, --property <PROPERTIES>  Changed property (repeatable)",
      "  -h, --help                   Print help"]
  | delete =>
    ["Root documents to reindex after an entity instance was deleted", "",
      "Usage: " ++ required ++ " delete --entity <ENTITY>", "",
      "Options:",
      "  -e, --entity <ENTITY>  Deleted entity type",
      "  -h, --help             Print help"]
  | help =>
    ["Print this message or the help of the given subcommand(s)", "",
      "Usage: " ++ required ++ " help [COMMAND]...", "",
      "Arguments:",
      "  [COMMAND]...  Print help for the subcommand(s)"]

def text (topic : Topic) : String := String.join (topic.lines.map (· ++ "\n"))

end Reindex.Command.Topic
