namespace RouteBindings

/- Parameters outside the path go into the query of a GET and into the body of anything else. -/
def requestHelper : String :=
  "type HttpMethods = 'GET' | 'POST' | 'PATCH' | 'PUT' | 'DELETE'\n" ++
  "type BaseResource = \x7b\n" ++
  "  path: (args: any) => string\n" ++
  "  names: string[]\n" ++
  "  Methods?: HttpMethods\n" ++
  "  Params?: \x7b [method in HttpMethods]?: any \x7d\n" ++
  "  Return?: \x7b [method in HttpMethods]?: any \x7d\n" ++
  "\x7d\n" ++
  "\n" ++
  "export async function request<\n" ++
  "  Method extends Exclude<Resource['Methods'], undefined>,\n" ++
  "  Resource extends BaseResource,\n" ++
  "  Params extends Exclude<Resource['Params'], undefined>[Method],\n" ++
  "  Return extends Exclude<Resource['Return'], undefined>[Method]\n" ++
  ">(method: Method, \x7b path, names \x7d: Resource, params: Params): Promise<\x7b status: number, json: Return \x7d> \x7b\n" ++
  "  const extra = Object.keys(params).reduce<Record<string, any>>(\n" ++
  "    (acc, key) => (names.indexOf(key) === -1 ? \x7b ...acc, [key]: params[key] \x7d : acc),\n" ++
  "    \x7b\x7d\n" ++
  "  )\n" ++
  "  const search = new URLSearchParams()\n" ++
  "  for (const key of Object.keys(extra)) \x7b\n" ++
  "    search.append(key, extra[key])\n" ++
  "  \x7d\n" ++
  "  const query = method === 'GET' && Object.keys(extra).length ? `?$\x7bsearch.toString()\x7d` : ''\n" ++
  "  const body = method === 'GET' ? undefined : JSON.stringify(extra)\n" ++
  "  const token = document.querySelector<HTMLMetaElement>('meta[name=csrf-token]')\n" ++
  "  const response = await fetch(path(params) + query, \x7b\n" ++
  "    method,\n" ++
  "    body,\n" ++
  "    headers: \x7b\n" ++
  "      'Accept': 'application/json',\n" ++
  "      'Content-Type': 'application/json',\n" ++
  "      ...(token ? \x7b 'X-CSRF-Token': token.content \x7d : \x7b\x7d)\n" ++
  "    \x7d\n" ++
  "  \x7d)\n" ++
  "  const json = (await response.json()) as Return\n" ++
  "  return \x7b status: response.status, json \x7d\n" ++
  "\x7d\n"

end RouteBindings
