import NullFlow.Url

namespace NullFlow.Endpoint

def tracesRoute : List String := ["v1", "traces"]

def logsRoute : List String := ["v1", "logs"]

/-- The route for traces: the root and the route for logs are replaced, any other stays. -/
def route : Url.Route → Url.Route
  | .rooted segments =>
    if segments = [""] then .rooted tracesRoute
    else if logsRoute.isSuffixOf segments then
      .rooted (segments.take (segments.length - logsRoute.length) ++ tracesRoute)
    else .rooted segments
  | .rootless text =>
    let logs := (Url.Route.rooted logsRoute).text
    let start := text.length - logs.length
    if text.endsWith logs then
      .rootless (String.ofList (text.toList.take start) ++ (Url.Route.rooted tracesRoute).text)
    else .rootless text

def ofText (text : String) : Except UrlError String := do
  let url ← Url.parse text
  return { url with route := route url.route : Url }.text

end NullFlow.Endpoint
