/-!
# The playground

A page on which people try queries out in a browser. It sends them to the
gateway that the page came from.
-/

namespace GraphGateway.Http

/-- **The page**, line by line. -/
def playgroundPage : String :=
  String.intercalate "\n" [
    "",
    "<!DOCTYPE html>",
    "<html>",
    "<head>",
    "  <title>GraphiQL - KastQL Gateway</title>",
    "  <link href=\"https://unpkg.com/graphiql@1.5.0/graphiql.min.css\" rel=\"stylesheet\" />",
    "  <style>",
    "    body \x7b margin: 0; padding: 0; height: 100vh; \x7d",
    "    #graphiql \x7b height: 100vh; \x7d",
    "  </style>",
    "</head>",
    "<body>",
    "  <div id=\"graphiql\"></div>",
    "",
    "  <script src=\"https://unpkg.com/react@17.0.2/umd/react.production.min.js\"></script>",
    "  <script src=\"https://unpkg.com/react-dom@17.0.2/umd/react-dom.production.min.js\">" ++
      "</script>",
    "  <script src=\"https://unpkg.com/graphiql@1.5.0/graphiql.min.js\"></script>",
    "  <script>",
    "    function graphQLFetcher(graphQLParams) \x7b",
    "      return fetch('/graphql', \x7b",
    "        method: 'post',",
    "        headers: \x7b 'Content-Type': 'application/json' \x7d,",
    "        body: JSON.stringify(graphQLParams),",
    "      \x7d).then(response => response.json());",
    "    \x7d",
    "",
    "    ReactDOM.render(",
    "      React.createElement(GraphiQL, \x7b fetcher: graphQLFetcher \x7d),",
    "      document.getElementById('graphiql')",
    "    );",
    "  </script>",
    "</body>",
    "</html>",
    ""]

end GraphGateway.Http
