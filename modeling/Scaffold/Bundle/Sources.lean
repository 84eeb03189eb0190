namespace Scaffold.Bundle

/-!
# Sources of the bundled templates

The manifest and the templates of an Amplify project, as lines of text. The
templates use the names that the context of a project defines.
-/

/-- What the library holds: the path of each template, which is one itself, and its file. -/
def manifestLines : List String :=
  [ "# Ordered template entries for an AWS Amplify Gen 2 project."
  , "# \"path\" is itself a template; an empty rendered path skips the file."
  , "files:"
  , "  - path: package.json"
  , "    body: package.json.hbs"
  , "  - path: README.md"
  , "    body: README.md.hbs"
  , "  - path: .gitignore"
  , "    body: gitignore.hbs"
  , "  - path: index.html"
  , "    body: index.html.hbs"
  , "  - path: amplify/backend.ts"
  , "    body: amplify/backend.ts.hbs"
  , "  - path: amplify/auth/resource.ts"
  , "    body: amplify/auth/resource.ts.hbs"
  , "  - path: amplify/data/resource.ts"
  , "    body: amplify/data/resource.ts.hbs"
  , "  - path: \"\x7b\x7b#if storageNeeded\x7d\x7damplify/storage/resource.ts\x7b\x7b/if\x7d\x7d\""
  , "    body: amplify/storage/resource.ts.hbs"
  , "  - path: src/main.tsx"
  , "    body: src/main.tsx.hbs"
  , "  - path: src/App.tsx"
  , "    body: src/App.tsx.hbs"
  , "  - path: src/components/index.tsx"
  , "    body: src/components/index.tsx.hbs"
  , "  - path: \"\x7b\x7b#if realTimeSubscriptions\x7d\x7dsrc/lib/realtime.ts\x7b\x7b/if\x7d\x7d\""
  , "    body: src/lib/realtime.ts.hbs" ]

/-- The manifest of the package. -/
def packageJson : List String :=
  [ "\x7b"
  , "  \"name\": \"\x7b\x7bprojectNameKebab\x7d\x7d\","
  , "  \"version\": \"0.1.0\","
  , "  \"private\": true,"
  , "  \"type\": \"module\","
  , "  \"description\": \x7b\x7bjson description\x7d\x7d,"
  , "  \"scripts\": \x7b"
  , "    \"dev\": \"vite\","
  , "    \"build\": \"tsc && vite build\","
  , "    \"sandbox\": \"ampx sandbox\""
  , "  \x7d,"
  , "  \"dependencies\": \x7b"
  , "    \"@aws-amplify/ui-react\": \"^6.5.0\",\x7b\x7b#if storageNeeded\x7d\x7d"
  , "    \"@aws-amplify/ui-react-storage\": \"^3.3.0\",\x7b\x7b/if\x7d\x7d\x7b\x7b#if charts\x7d\x7d"
  , "    \"recharts\": \"^2.12.0\",\x7b\x7b/if\x7d\x7d\x7b\x7b#if richText\x7d\x7d"
  , "    \"@tiptap/react\": \"^2.6.0\","
  , "    \"@tiptap/starter-kit\": \"^2.6.0\",\x7b\x7b/if\x7d\x7d"
  , "    \"aws-amplify\": \"^6.6.0\","
  , "    \"react\": \"^18.3.1\","
  , "    \"react-dom\": \"^18.3.1\""
  , "  \x7d,"
  , "  \"devDependencies\": \x7b"
  , "    \"@aws-amplify/backend\": \"^1.2.0\","
  , "    \"@aws-amplify/backend-cli\": \"^1.2.0\","
  , "    \"@types/react\": \"^18.3.3\","
  , "    \"@types/react-dom\": \"^18.3.0\","
  , "    \"@vitejs/plugin-react\": \"^4.3.1\","
  , "    \"typescript\": \"^5.5.4\","
  , "    \"vite\": \"^5.4.0\""
  , "  \x7d"
  , "\x7d" ]

/-- The introduction for readers. -/
def readme : List String :=
  [ "# \x7b\x7btitlecase projectName\x7d\x7d"
  , ""
  , "\x7b\x7b#if description\x7d\x7d\x7b\x7bdescription\x7d\x7d"
  , "\x7b\x7belse\x7d\x7dA \x7b\x7btitlecase pattern\x7d\x7d application on AWS Amplify Gen 2."
  , "\x7b\x7b/if\x7d\x7d"
  , "## Features"
  , ""
  , "\x7b\x7b#each features\x7d\x7d- \x7b\x7bthis\x7d\x7d"
  , "\x7b\x7b/each\x7d\x7d"
  , "## Data models"
  , ""
  , "\x7b\x7b#each models\x7d\x7d- **\x7b\x7bthis.name\x7d\x7d**: \x7b\x7b#each this.fields\x7d\x7d`\x7b\x7bthis.name\x7d\x7d`\x7b\x7b#unless @last\x7d\x7d, \x7b\x7b/unless\x7d\x7d\x7b\x7b/each\x7d\x7d"
  , "\x7b\x7b/each\x7d\x7d"
  , "## Getting started"
  , ""
  , "```bash"
  , "npm install"
  , "npx ampx sandbox"
  , "npm run dev"
  , "```"
  , "\x7b\x7b#if _warnings\x7d\x7d"
  , "## Generation warnings"
  , ""
  , "\x7b\x7b#each _warnings\x7d\x7d- \x7b\x7bthis\x7d\x7d"
  , "\x7b\x7b/each\x7d\x7d\x7b\x7b/if\x7d\x7d" ]

/-- What version control leaves out. -/
def ignored : List String :=
  [ "node_modules/"
  , "dist/"
  , ".amplify/"
  , "amplify_outputs*"
  , ".env*.local"
  , ".ace/" ]

/-- The page that loads the client. -/
def indexHtml : List String :=
  [ "<!doctype html>"
  , "<html lang=\"en\">"
  , "  <head>"
  , "    <meta charset=\"UTF-8\" />"
  , "    <meta name=\"viewport\" content=\"width=device-width, initial-scale=1.0\" />"
  , "    <title>\x7b\x7btitlecase projectName\x7d\x7d</title>"
  , "  </head>"
  , "  <body>"
  , "    <div id=\"root\"></div>"
  , "    <script type=\"module\" src=\"/src/main.tsx\"></script>"
  , "  </body>"
  , "</html>" ]

/-- The backend, made of its resources. -/
def backend : List String :=
  [ "import \x7b defineBackend \x7d from '@aws-amplify/backend';"
  , "import \x7b auth \x7d from './auth/resource';"
  , "import \x7b data \x7d from './data/resource';"
  , "\x7b\x7b#if storageNeeded\x7d\x7dimport \x7b storage \x7d from './storage/resource';"
  , "\x7b\x7b/if\x7d\x7d"
  , "defineBackend(\x7b"
  , "  auth,"
  , "  data,\x7b\x7b#if storageNeeded\x7d\x7d"
  , "  storage,\x7b\x7b/if\x7d\x7d"
  , "\x7d);" ]

/-- Who may sign in, and how. -/
def authResource : List String :=
  [ "import \x7b defineAuth\x7b\x7b#if socialAuth\x7d\x7d, secret\x7b\x7b/if\x7d\x7d \x7d from '@aws-amplify/backend';"
  , ""
  , "export const auth = defineAuth(\x7b"
  , "  loginWith: \x7b"
  , "    email: true,\x7b\x7b#if socialAuth\x7d\x7d"
  , "    externalProviders: \x7b"
  , "\x7b\x7b#each auth.socialProviders\x7d\x7d      \x7b\x7bcamelcase this\x7d\x7d: \x7b"
  , "        clientId: secret('\x7b\x7bconstantcase this\x7d\x7d_CLIENT_ID'),"
  , "        clientSecret: secret('\x7b\x7bconstantcase this\x7d\x7d_CLIENT_SECRET'),"
  , "      \x7d,"
  , "\x7b\x7b/each\x7d\x7d      callbackUrls: ['http://localhost:5173/'],"
  , "      logoutUrls: ['http://localhost:5173/'],"
  , "    \x7d,\x7b\x7b/if\x7d\x7d"
  , "  \x7d,\x7b\x7b#if mfa\x7d\x7d"
  , "  multifactor: \x7b"
  , "    mode: 'OPTIONAL',"
  , "    totp: true,"
  , "  \x7d,\x7b\x7b/if\x7d\x7d\x7b\x7b#if auth.groups\x7d\x7d"
  , "  groups: [\x7b\x7b#each auth.groups\x7d\x7d'\x7b\x7bthis\x7d\x7d'\x7b\x7b#unless @last\x7d\x7d, \x7b\x7b/unless\x7d\x7d\x7b\x7b/each\x7d\x7d],\x7b\x7b/if\x7d\x7d"
  , "\x7d);" ]

/-- The schema of the data. -/
def dataResource : List String :=
  [ "import \x7b type ClientSchema, a, defineData \x7d from '@aws-amplify/backend';"
  , ""
  , "const schema = a.schema(\x7b"
  , "\x7b\x7b#each models\x7d\x7d  \x7b\x7bthis.name\x7d\x7d: a"
  , "    .model(\x7b"
  , "\x7b\x7b#each this.fields\x7d\x7d      \x7b\x7bthis.name\x7d\x7d: a.\x7b\x7bthis.type\x7d\x7d()\x7b\x7b#if this.required\x7d\x7d.required()\x7b\x7b/if\x7d\x7d,"
  , "\x7b\x7b/each\x7d\x7d\x7b\x7b#each this.relationships\x7d\x7d      \x7b\x7bthis.name\x7d\x7d: a.\x7b\x7bthis.kind\x7d\x7d('\x7b\x7bthis.target\x7d\x7d', '\x7b\x7bthis.field\x7d\x7d'),"
  , "\x7b\x7b/each\x7d\x7d    \x7d)"
  , "    .authorization((allow) => [\x7b\x7b#each this.authorization\x7d\x7d\x7b\x7bthis\x7d\x7d\x7b\x7b#unless @last\x7d\x7d, \x7b\x7b/unless\x7d\x7d\x7b\x7b/each\x7d\x7d]),"
  , "\x7b\x7b/each\x7d\x7d\x7d);"
  , ""
  , "export type Schema = ClientSchema<typeof schema>;"
  , ""
  , "export const data = defineData(\x7b"
  , "  schema,"
  , "  authorizationModes: \x7b"
  , "    defaultAuthorizationMode: 'userPool',"
  , "  \x7d,"
  , "\x7d);" ]

/-- The bucket for files. -/
def storageResource : List String :=
  [ "import \x7b defineStorage \x7d from '@aws-amplify/backend';"
  , ""
  , "export const storage = defineStorage(\x7b"
  , "  name: '\x7b\x7bstorage.bucketName\x7d\x7d',"
  , "  access: (allow) => (\x7b"
  , "\x7b\x7b#each storage.paths\x7d\x7d    '\x7b\x7bthis.path\x7d\x7d': ["
  , "\x7b\x7b#each this.access\x7d\x7d      \x7b\x7bthis\x7d\x7d,"
  , "\x7b\x7b/each\x7d\x7d    ],"
  , "\x7b\x7b/each\x7d\x7d  \x7d),"
  , "\x7d);" ]

/-- The entry point of the client. -/
def mainModule : List String :=
  [ "import React from 'react';"
  , "import ReactDOM from 'react-dom/client';"
  , "import \x7b Amplify \x7d from 'aws-amplify';"
  , "import outputs from '../amplify_outputs.json';"
  , "import App from './App';"
  , ""
  , "Amplify.configure(outputs);"
  , ""
  , "ReactDOM.createRoot(document.getElementById('root')!).render("
  , "  <React.StrictMode>"
  , "    <App />"
  , "  </React.StrictMode>,"
  , ");" ]

/-- The client application. -/
def appModule : List String :=
  [ "import \x7b Authenticator \x7d from '@aws-amplify/ui-react';"
  , "import '@aws-amplify/ui-react/styles.css';"
  , "import \x7b \x7b\x7b#each components\x7d\x7d\x7b\x7bthis.name\x7d\x7d\x7b\x7b#unless @last\x7d\x7d, \x7b\x7b/unless\x7d\x7d\x7b\x7b/each\x7d\x7d \x7d from './components';"
  , ""
  , "export default function App() \x7b"
  , "  return ("
  , "    <Authenticator>"
  , "      \x7b(\x7b signOut, user \x7d) => ("
  , "        <main>"
  , "          <h1>\x7b\x7btitlecase projectName\x7d\x7d</h1>"
  , "          <p>Signed in as \x7buser?.signInDetails?.loginId\x7d</p>"
  , "\x7b\x7b#each components\x7d\x7d          <\x7b\x7bthis.name\x7d\x7d />"
  , "\x7b\x7b/each\x7d\x7d          <button onClick=\x7bsignOut\x7d>Sign out</button>"
  , "        </main>"
  , "      )\x7d"
  , "    </Authenticator>"
  , "  );"
  , "\x7d" ]

/-- A placeholder for each component. -/
def componentsModule : List String :=
  [ "\x7b\x7b! One placeholder component per scaffolded UI component. \x7d\x7d"
  , "import \x7b generateClient \x7d from 'aws-amplify/data';"
  , "import type \x7b Schema \x7d from '../../amplify/data/resource';"
  , ""
  , "export const client = generateClient<Schema>();"
  , "\x7b\x7b#each components\x7d\x7d"
  , "/** \x7b\x7btitlecase this.name\x7d\x7d (\x7b\x7bthis.kind\x7d\x7d\x7b\x7b#if this.model\x7d\x7d of \x7b\x7bthis.model\x7d\x7d\x7b\x7b/if\x7d\x7d). */"
  , "export function \x7b\x7bthis.name\x7d\x7d() \x7b"
  , "  return ("
  , "    <section className=\"\x7b\x7bkebabcase this.name\x7d\x7d\" data-kind=\"\x7b\x7bthis.kind\x7d\x7d\">"
  , "      <h2>\x7b\x7btitlecase this.name\x7d\x7d</h2>"
  , "    </section>"
  , "  );"
  , "\x7d"
  , "\x7b\x7b/each\x7d\x7d" ]

/-- Observers for each model. -/
def realtimeModule : List String :=
  [ "import \x7b generateClient \x7d from 'aws-amplify/data';"
  , "import type \x7b Schema \x7d from '../../amplify/data/resource';"
  , ""
  , "const client = generateClient<Schema>();"
  , "\x7b\x7b#each models\x7d\x7d"
  , "export function observe\x7b\x7bthis.namePlural\x7d\x7d("
  , "  onChange: (items: Schema['\x7b\x7bthis.name\x7d\x7d']['type'][]) => void,"
  , ") \x7b"
  , "  return client.models.\x7b\x7bthis.name\x7d\x7d.observeQuery().subscribe(\x7b"
  , "    next: (\x7b items \x7d) => onChange([...items]),"
  , "  \x7d);"
  , "\x7d"
  , "\x7b\x7b/each\x7d\x7d" ]

end Scaffold.Bundle
