/-!
# The fixed part of a declaration document

The types with which a client derives the form of its queries and of their responses from
the declared types, and a stub that lets an editor show what may be selected.
-/

namespace TypedQuery.Declarations

/-- A stub of a query function, for hints in an editor. -/
def queryBuilder : String := "\n".intercalate [
  "// Query builder (Typescript version >= 4.1.3 required)",
  "const queryResult = executeGiraffeql(\x7b",
  "  // Start typing here to get hints",
  "  /* QUERY START */",
  "",
  "  /* QUERY END */",
  "\x7d);",
  "",
  "export function executeGiraffeql<Key extends keyof Root>(",
  "  query: GetQuery<Key>",
  "): GetResponse<Key> \x7b",
  "  let data: any;",
  "  return data;",
  "\x7d"]

/-- The derived types. -/
def scaffold : String := "\n".intercalate [
  "",
  "// scaffolding",
  "export type GetQuery<K extends keyof Root> = K extends never",
  "  ? Partial<Record<K, Queryize<Root[keyof Root]>>>",
  "  : Record<K, Queryize<Root[K]>>;",
  "",
  "export type GetResponse<K extends keyof Root> = Responseize<Root[K]>;",
  "",
  "export type GetType<T> = Responseize<Field<T, undefined>>",
  "",
  "type Primitive = string | number | boolean | undefined | null;",
  "",
  "type Field<T, K> = \x7b",
  "  Type: T;",
  "  Args: K;",
  "\x7d;",
  "",
  "type Responseize<T> = T extends Field<infer Type, infer Args>",
  "  ? Type extends never",
  "    ? never",
  "    : Type extends (infer U)[]",
  "    ? \x7b [P in keyof U]: Responseize<U[P]> \x7d[]",
  "    : \x7b [P in keyof Type]: Responseize<Type[P]> \x7d",
  "  : never;",
  "",
  "type Queryize<T> = T extends Field<infer Type, infer Args>",
  "  ? Type extends never",
  "    ? never",
  "    : Type extends Primitive",
  "    ? Args extends undefined // Args is undefined",
  "      ? LookupValue",
  "      : Args extends [infer Arg]",
  "      ? LookupValue | \x7b __args: Arg \x7d // Args is a tuple",
  "      : \x7b __args: Args \x7d",
  "    : Type extends (infer U)[]",
  "    ? Queryize<Field<U, Args>>",
  "    : Args extends undefined // Args is undefined",
  "    ? \x7b [P in keyof Type]?: Queryize<Type[P]> \x7d",
  "    : Args extends [infer Arg]",
  "    ? \x7b [P in keyof Type]?: Queryize<Type[P]> \x7d & \x7b",
  "        __args?: Arg;",
  "      \x7d",
  "    : \x7b [P in keyof Type]?: Queryize<Type[P]> \x7d & \x7b __args: Args \x7d",
  "  : never;",
  "",
  ""]

end TypedQuery.Declarations
